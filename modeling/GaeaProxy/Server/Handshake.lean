import GaeaProxy.Server.ReloadProtocol
import GaeaProxy.Server.UserRepresentation

/-! # The handshake's authentication and the namespace it binds

`handleHandshakeResponse` checks the user, verifies the auth response, resolves the collation
and binds the session to the namespace `GetNamespaceByUser` answers; `Handshake` then reads
that namespace in `IsAllowConnect`. Each of these registry reads loads `switchIndex` afresh,
so registry calls can land between any two of them: the bound namespace is the one that
declares the pair when `GetNamespaceByUser` reads, or `""` when a reload in between removed
the pair, and `IsAllowConnect` meets a nil namespace only then or after a delete of it.
-/

namespace Gaea.Server

/-- Modelled from the spec: `mysql.CachingSHA2Password`; the `mysql` package is not in the
repository's files. -/
def cachingSHA2Password : String := "caching_sha2_password"

/-- The fields of `HandshakeResponseInfo` that `handleHandshakeResponse` reads. The salt
enters only through the comparisons of `PasswordChecks`. -/
structure HandshakeResponseInfo where
  user : String
  authResponse : List UInt8
  authPlugin : String
  collationID : Nat
  database : String
  deriving DecidableEq, Repr

/-- How the auth response compares with a stored password `p` under each scheme:
`bytes.Equal(auth, mysql.CalcPassword(salt, p))`, `mysql.CheckHashPassword(auth, salt, p[1:])`
and `bytes.Equal(auth, mysql.CalcCachingSha2Password(salt, p))`. -/
structure PasswordChecks where
  calcPassword : String → Bool
  checkHash : String → Bool
  calcSha2 : String → Bool

/-- The errors `handleHandshakeResponse` returns: `ErrAccessDenied` for the user, and
`ErrInternal` with its message. -/
inductive HandshakeError where
  | accessDenied (user : String)
  | internal (msg : String)
  deriving DecidableEq, Repr

/-- What a successful `handleHandshakeResponse` writes: `executor.user`, the collation id
and charset, `executor.db`, and `cc.namespace`. -/
structure SessionAuth where
  user : String
  collationID : Nat
  charset : String
  db : String
  namespaceName : String
  deriving DecidableEq, Repr

/-- The manager states the registry reads of `handleHandshakeResponse` see: `CheckUser`, the
password check the auth plugin selects, the `CheckPassword` that follows a failed
`CheckHashPassword`, and `GetNamespaceByUser`. -/
structure HandshakeReads where
  checkUser : Manager
  checkPassword : Manager
  fallback : Manager
  getNamespaceByUser : Manager

/-- No registry call lands between the reads. -/
def HandshakeReads.atomic (m : Manager) : HandshakeReads :=
  ⟨m, m, m, m⟩

/-- The password check of `handleHandshakeResponse`: the scheme the auth plugin selects, and
for a client that names no plugin, the hashed scheme before the classic one unless the
response has the 32 bytes of the SHA-256 scheme. -/
def checkAuth (reads : HandshakeReads) (checks : PasswordChecks) (info : HandshakeResponseInfo) :
    Bool × String :=
  if info.authPlugin.length = 0 then
    if info.authResponse.length = 32 then
      reads.checkPassword.checkSha2Password info.user checks.calcSha2
    else
      let hashed := reads.checkPassword.checkHashPassword info.user checks.checkHash
      if !hashed.1 then reads.fallback.checkPassword info.user checks.calcPassword else hashed
  else if info.authPlugin = cachingSHA2Password then
    reads.checkPassword.checkSha2Password info.user checks.calcSha2
  else reads.checkPassword.checkPassword info.user checks.calcPassword

/-- `handleHandshakeResponse`; `collations` and `collationNameToCharset` stand for
`mysql.Collations` and `mysql.CollationNameToCharset`. -/
def handleHandshakeResponse (reads : HandshakeReads) (checks : PasswordChecks)
    (collations : Nat → Option String) (collationNameToCharset : String → Option String)
    (info : HandshakeResponseInfo) : Except HandshakeError SessionAuth :=
  if !reads.checkUser.checkUser info.user then .error (.accessDenied info.user)
  else
    let auth := checkAuth reads checks info
    if !auth.1 then .error (.accessDenied info.user)
    else
      match collations info.collationID with
      | none => .error (.internal "invalid collation")
      | some collationName =>
          match collationNameToCharset collationName with
          | none => .error (.internal "invalid collation")
          | some charset =>
              .ok { user := info.user, collationID := info.collationID, charset,
                    db := info.database,
                    namespaceName := reads.getNamespaceByUser.getNamespaceByUser info.user auth.2 }

/-- `IsAllowConnect` for a session bound to the namespace `name`; `none` is the nil
dereference, and `ipAllowed` stands for `IsClientIPAllowed` on the client's address. -/
def Manager.isAllowConnect (m : Manager) (name : String) (ipAllowed : Namespace → Bool) :
    Option Bool :=
  (m.getNamespace name).map ipAllowed

/-- The password a check accepts is stored for the user in the readable slot of the read
that accepted it. -/
theorem checkAuth_mem {reads : HandshakeReads} {checks : PasswordChecks}
    {info : HandshakeResponseInfo} (h : (checkAuth reads checks info).1 = true) :
    (checkAuth reads checks info).2 ∈
        ((reads.checkPassword.users reads.checkPassword.switchIndex).users info.user).getD [] ∨
      (checkAuth reads checks info).2 ∈
        ((reads.fallback.users reads.fallback.switchIndex).users info.user).getD [] := by
  have hfind : ∀ (m : Manager) accepts,
      ((m.users m.switchIndex).findPassword info.user accepts).1 = true →
      ((m.users m.switchIndex).findPassword info.user accepts).2 ∈
        ((m.users m.switchIndex).users info.user).getD [] :=
    fun _ _ h => UserManager.mem_of_findPassword (Prod.ext h rfl)
  unfold checkAuth Manager.checkSha2Password Manager.checkHashPassword Manager.checkPassword at *
  unfold UserManager.checkSha2Password UserManager.checkHashPassword UserManager.checkPassword at *
  dsimp only at h ⊢
  split_ifs at h ⊢ <;> first | exact .inl (hfind _ _ h) | exact .inr (hfind _ _ h)

/-- What a successful handshake response leaves: an accepted check, and the namespace the
accepted password maps to when `GetNamespaceByUser` reads. -/
theorem handleHandshakeResponse_ok {reads : HandshakeReads} {checks : PasswordChecks}
    {collations : Nat → Option String} {collationNameToCharset : String → Option String}
    {info : HandshakeResponseInfo} {auth : SessionAuth}
    (h : handleHandshakeResponse reads checks collations collationNameToCharset info = .ok auth) :
    (checkAuth reads checks info).1 = true ∧
      auth.namespaceName =
        reads.getNamespaceByUser.getNamespaceByUser info.user (checkAuth reads checks info).2 := by
  unfold handleHandshakeResponse at h
  cases hauth : (checkAuth reads checks info).1
  · simp [hauth] at h
  cases hc : collations info.collationID with
  | none => simp only [hauth, hc, Bool.not_true] at h; split_ifs at h
  | some collationName =>
      cases hcs : collationNameToCharset collationName with
      | none => simp only [hauth, hc, hcs, Bool.not_true] at h; split_ifs at h
      | some charset =>
          simp only [hauth, hc, hcs, Bool.not_true] at h
          split_ifs at h
          cases h
          exact ⟨rfl, rfl⟩

/-! ### The slots stay in step -/

/-- The namespace map `n` and the user manager `u` of one slot stand for `configs`: `u` is a
user manager built for them, and each of them has its namespace in `n`. -/
structure SlotSynced (n : NamespaceManager) (u : UserManager) (configs : List NamespaceConfig) :
    Prop where
  users : UserReachable u configs
  namespaces : ∀ c ∈ configs, (n.getNamespace c.name).isSome

/-- The readable slot stands for `configs`, and while a reload is prepared the other slot
stands for `pending`. -/
structure Synced (m : Manager) (configs pending : List NamespaceConfig) : Prop where
  current : SlotSynced (m.namespaces m.switchIndex) (m.users m.switchIndex) configs
  prepared : m.reloadPrepared = true →
    SlotSynced (m.namespaces (!m.switchIndex)) (m.users (!m.switchIndex)) pending

/-- A configuration whose build succeeds has its namespace after the loop of
`CreateNamespaceManager`, and the loop keeps every namespace already built. -/
theorem getNamespace_foldl_createStep (built : NamespaceConfig → Bool) :
    ∀ (configs : List NamespaceConfig) (acc : NamespaceManager × Nat) (name : String),
      (∀ c ∈ configs, built c = true) →
      (acc.1.getNamespace name).isSome ∨ (∃ c ∈ configs, c.name = name) →
      ((configs.foldl (NamespaceManager.createStep built) acc).1.getNamespace name).isSome
  | [], _, _, _, h => by simpa using h
  | config :: configs, acc, name, hbuilt, h => by
      apply getNamespace_foldl_createStep built configs _ name
        (fun c hc => hbuilt c (List.mem_cons_of_mem _ hc))
      simp only [NamespaceManager.createStep, hbuilt config (List.mem_cons_self _ _), if_true,
        NamespaceManager.getNamespace]
      by_cases hname : name = config.name
      · subst hname
        exact .inl (by simp)
      · simp only [Function.update_noteq hname]
        rcases h with h | ⟨c, hc, rfl⟩
        · exact .inl h
        · rcases List.mem_cons.mp hc with rfl | hc
          · exact absurd rfl hname
          · exact .inr ⟨c, hc, rfl⟩

namespace Synced

variable {m : Manager} {configs pending : List NamespaceConfig}

theorem createManager (built : NamespaceConfig → Bool) (configs : List NamespaceConfig)
    (hbuilt : ∀ c ∈ configs, built c = true) (hwf : WellFormed (declarations configs)) :
    Synced (Manager.createManager built configs) configs [] where
  current := by
    refine ⟨by simpa [Manager.createManager] using UserReachable.create configs hwf, ?_⟩
    intro c hc
    simpa [Manager.createManager, NamespaceManager.createNamespaceManager] using
      getNamespace_foldl_createStep built configs _ c.name hbuilt (.inr ⟨c, hc, rfl⟩)
  prepared := nofun

/-- A successful prepare rebuilds the other slot from the readable one and the new
configuration. -/
theorem prepare (h : Synced m configs pending) (config : NamespaceConfig)
    (hwf : WellFormed (declarations ((configs.filter fun c => c.name ≠ config.name) ++ [config]))) :
    Synced (m.step (.reloadNamespacePrepare config true)) configs
      ((configs.filter fun c => c.name ≠ config.name) ++ [config]) where
  current := by
    simpa [Manager.step_prepare_users, Manager.step_prepare_namespaces] using h.current
  prepared _ := by
    refine ⟨?_, fun c hc => ?_⟩
    · simpa [Manager.step_prepare_users, UserManager.rebuildNamespaceUsers,
        UserManager.clearNamespaceUsers] using
        UserReachable.rebuild config _ h.current.users List.Perm.rfl hwf
    · rw [Manager.step_prepare_switchIndex, Manager.getNamespace_other_step_prepare]
      by_cases hname : c.name = config.name
      · rw [hname, Function.update_same]
        rfl
      · have hc : c ∈ configs := by
          rcases List.mem_append.mp hc with hc | hc
          · exact (List.mem_filter.mp hc).1
          · exact absurd (congrArg NamespaceConfig.name (List.mem_singleton.mp hc)) hname
        simpa [hname, Manager.getNamespace] using h.current.namespaces c hc

/-- A commit reads the slot the prepare wrote. -/
theorem commit (h : Synced m configs pending) (name : String) :
    Synced (m.step (.reloadNamespaceCommit name))
      (if m.reloadPrepared then pending else configs) pending := by
  cases hprepared : m.reloadPrepared
  · simpa [Manager.step_commit_of_not_prepared name hprepared] using h
  · have hslot := h.prepared hprepared
    rw [Manager.step_commit] at *
    exact ⟨by simpa [hprepared] using hslot, by simp [hprepared]⟩

/-- A delete the protocol admits writes the other slot without the namespace and its users,
and flips; a delete of an absent name changes nothing. -/
theorem delete (h : Synced m configs pending) (name : String)
    (hadmissible : Admissible m (.deleteNamespace name)) :
    Synced (m.step (.deleteNamespace name)) (configs.filter fun c => c.name ≠ name) pending := by
  rw [Manager.step_delete]
  cases hname : m.getNamespace name with
  | none =>
      rw [Manager.deleteNamespace_of_none hname, List.filter_eq_self.mpr]
      · exact h
      · intro c hc
        have hsome : (m.getNamespace c.name).isSome := h.current.namespaces c hc
        simp only [decide_eq_true_eq]
        rintro rfl
        simp [hname] at hsome
  | some ns =>
      have hnotPrepared : m.reloadPrepared = false := by
        simpa [Admissible, hname] using hadmissible
      refine ⟨⟨?_, fun c hc => ?_⟩, by simp [hnotPrepared]⟩
      · simpa [Manager.deleteNamespace, hname, UserManager.clearNamespaceUsers] using
          UserReachable.clear name _ h.current.users List.Perm.rfl
      · have hne : c.name ≠ name := by simp_all
        have hmem : c ∈ configs := (List.mem_filter.mp hc).1
        have hget := Manager.getNamespace_deleteNamespace m name c.name
        simp only [Function.update_noteq hne] at hget
        show ((m.deleteNamespace name).getNamespace c.name).isSome
        rw [hget]
        exact h.current.namespaces c hmem

end Synced

/-- Manager states reached from a `CreateManager` whose builds all succeed by calls the
two-phase protocol admits, each successful prepare keeping the declared user pairs distinct
and colon-free; with the configurations the readable slot and the prepared slot stand for. -/
inductive AuthReachable : Manager → List NamespaceConfig → List NamespaceConfig → Prop
  | create (built : NamespaceConfig → Bool) (configs : List NamespaceConfig) :
      (∀ c ∈ configs, built c = true) → WellFormed (declarations configs) →
      AuthReachable (Manager.createManager built configs) configs []
  | prepare {m : Manager} {configs pending : List NamespaceConfig} (config : NamespaceConfig)
      (built : Bool) : AuthReachable m configs pending →
      (built = true →
        WellFormed (declarations ((configs.filter fun c => c.name ≠ config.name) ++ [config]))) →
      AuthReachable (m.step (.reloadNamespacePrepare config built)) configs
        (if built then (configs.filter fun c => c.name ≠ config.name) ++ [config] else pending)
  | commit {m : Manager} {configs pending : List NamespaceConfig} (name : String) :
      AuthReachable m configs pending →
      AuthReachable (m.step (.reloadNamespaceCommit name))
        (if m.reloadPrepared then pending else configs) pending
  | delete {m : Manager} {configs pending : List NamespaceConfig} (name : String) :
      AuthReachable m configs pending → Admissible m (.deleteNamespace name) →
      AuthReachable (m.step (.deleteNamespace name)) (configs.filter fun c => c.name ≠ name)
        pending

theorem AuthReachable.synced {m : Manager} {configs pending : List NamespaceConfig}
    (h : AuthReachable m configs pending) : Synced m configs pending := by
  induction h with
  | create built configs hbuilt hwf => exact Synced.createManager built configs hbuilt hwf
  | prepare config built _ hwf ih =>
      cases built
      · simpa using ih
      · simpa using ih.prepare config (hwf rfl)
  | commit name _ ih => exact ih.commit name
  | delete name _ hadmissible ih => exact ih.delete name hadmissible

/-- A password stored for a user in a slot built for `configs` maps to a configuration of
`configs` that declares the pair. -/
theorem UserReachable.getNamespaceByUser_of_mem {u : UserManager}
    {configs : List NamespaceConfig} (h : UserReachable u configs) {user password : String}
    (hmem : password ∈ (u.users user).getD []) :
    ∃ c ∈ configs, (⟨user, password⟩ : User) ∈ c.users ∧
      u.getNamespaceByUser user password = c.name := by
  obtain ⟨hrep, hwf⟩ := h.represents
  obtain ⟨d, hd, hd1⟩ := List.mem_map.mp (mem_passwordsOf.mp ((hrep.users user).subset hmem))
  obtain ⟨c, hc, x, hx, rfl⟩ : ∃ c ∈ configs, ∃ x ∈ c.users, (x, c.name) = d := by
    simpa [declarations] using hd
  obtain rfl : x = ⟨user, password⟩ := hd1
  refine ⟨c, hc, hx, ?_⟩
  have hentry : (getUserKey user password, c.name) ∈ (declarations configs).map entryOf :=
    List.mem_map.mpr ⟨_, hd, rfl⟩
  unfold UserManager.getNamespaceByUser
  rw [UserManager.mapGet_perm hrep.userNamespaces hwf.keys_nodup,
    (UserManager.mapGet_eq_some_iff hwf.keys_nodup).mpr hentry]
  rfl

/-- The namespace a successful handshake binds, when `GetNamespaceByUser` reads a state the
protocol reaches: one of that state's readable slot that declares the user with the accepted
password, or `""` when none declares the pair. -/
theorem bound_namespace_cases {reads : HandshakeReads} {configs pending : List NamespaceConfig}
    (hreach : AuthReachable reads.getNamespaceByUser configs pending) {checks : PasswordChecks}
    {collations : Nat → Option String} {collationNameToCharset : String → Option String}
    {info : HandshakeResponseInfo} {auth : SessionAuth}
    (hok : handleHandshakeResponse reads checks collations collationNameToCharset info = .ok auth)
    (ipAllowed : Namespace → Bool) :
    (∃ c ∈ configs, c.name = auth.namespaceName ∧
        (⟨info.user, (checkAuth reads checks info).2⟩ : User) ∈ c.users ∧
        (reads.getNamespaceByUser.isAllowConnect auth.namespaceName ipAllowed).isSome) ∨
      (auth.namespaceName = "" ∧
        ∀ c ∈ configs, (⟨info.user, (checkAuth reads checks info).2⟩ : User) ∉ c.users) := by
  have hsynced := hreach.synced.current
  obtain ⟨-, hname⟩ := handleHandshakeResponse_ok hok
  -- the name is what the user slot of that read answers for the pair
  have hget := hsynced.users.getNamespaceByUser_eq info.user (checkAuth reads checks info).2
  cases hfind : (declarations configs).find?
      fun d => d.1 = ⟨info.user, (checkAuth reads checks info).2⟩ with
  | none =>
      refine .inr ⟨by rw [hname, Manager.getNamespaceByUser, hget, hfind]; rfl, fun c hc hmem => ?_⟩
      have hdeclared : (⟨info.user, (checkAuth reads checks info).2⟩, c.name) ∈
          declarations configs := by
        simp only [declarations, List.mem_flatMap, List.mem_map]
        exact ⟨c, hc, _, hmem, rfl⟩
      simpa using List.find?_eq_none.mp hfind _ hdeclared
  | some d =>
      obtain ⟨c, hc, x, hx, rfl⟩ : ∃ c ∈ configs, ∃ x ∈ c.users, (x, c.name) = d := by
        simpa [declarations] using List.mem_of_find?_eq_some hfind
      obtain rfl : x = ⟨info.user, (checkAuth reads checks info).2⟩ := by
        simpa using List.find?_some hfind
      have hnamespace : auth.namespaceName = c.name := by
        rw [hname, Manager.getNamespaceByUser, hget, hfind]
        rfl
      refine .inl ⟨c, hc, hnamespace.symm, hx, ?_⟩
      simpa [Manager.isAllowConnect, Manager.getNamespace, hnamespace] using hsynced.namespaces c hc

/-- Each call of `calls` is admissible in the state it meets. -/
def Manager.AdmissibleRun : Manager → List Call → Prop
  | _, [] => True
  | m, c :: calls => Admissible m c ∧ Manager.AdmissibleRun (m.step c) calls

theorem AuthReachable.refines {m : Manager} {configs pending : List NamespaceConfig}
    (h : AuthReachable m configs pending) : ∃ r, Refines m r := by
  induction h with
  | create built configs => exact ⟨_, Refines.create built configs⟩
  | prepare config built _ _ ih =>
      obtain ⟨r, hr⟩ := ih
      exact ⟨_, hr.step _ trivial⟩
  | commit name _ ih =>
      obtain ⟨r, hr⟩ := ih
      exact ⟨_, hr.step _ trivial⟩
  | delete name _ hadmissible ih =>
      obtain ⟨r, hr⟩ := ih
      exact ⟨_, hr.step _ hadmissible⟩

/-- A name of the registry's map stays in it through every call but its own delete. -/
theorem Registry.active_isSome_step {r : Registry} {name : String}
    (h : (r.active name).isSome) (ref : Nat) {c : Call} (hc : c ≠ .deleteNamespace name) :
    ((r.step ref c).active name).isSome := by
  cases c with
  | reloadNamespacePrepare config built => cases built <;> exact h
  | reloadNamespaceCommit _ =>
      simp only [Registry.step]
      split
      · rename_i ns _
        by_cases hname : name = ns.name
        · subst hname
          simp
        · simpa [hname] using h
      · exact h
  | deleteNamespace name' =>
      have hne : name ≠ name' := fun heq => hc (heq ▸ rfl)
      simpa [Registry.step, hne] using h

/-- Along an admissible run that does not delete `name`, a namespace the readable map
holds stays there. -/
theorem Refines.getNamespace_isSome_run :
    ∀ {m : Manager} {r : Registry} (calls : List Call), Refines m r →
      Manager.AdmissibleRun m calls → (∀ c ∈ calls, c ≠ .deleteNamespace name) →
      (m.getNamespace name).isSome → ((m.run calls).getNamespace name).isSome
  | _, _, [], _, _, _, h => h
  | m, r, c :: calls, hr, ⟨hc, hrun⟩, hkeep, h => by
      have hstep := hr.step c hc
      refine Refines.getNamespace_isSome_run calls hstep hrun
        (fun c' hc' => hkeep c' (List.mem_cons_of_mem _ hc')) ?_
      rw [hstep.active]
      exact Registry.active_isSome_step (hr.active name ▸ h) m.nextRef
        (hkeep c (List.mem_cons_self _ _))

end Gaea.Server

import VerdaCapi.Api.Names
import VerdaCapi.Cloud.Factory
import VerdaCapi.Remote.History
import VerdaCapi.Remote.Table

/-!
# The cache of clients

Reference: `internal/cloud/factory.go`. `SecretFactory.clientFor` reads the identity Secret, takes the
lock, and serves the cached client of that Secret if it was built from the same `resourceVersion`. Calls
run concurrently, and the Secrets are rotated, deleted and created again meanwhile.

`clientFor_serves`: every client that is served for a Secret was built from the credentials of the very
version the call had read, and every entry of the cache was built from the Secret of its key at its
`resourceVersion`. A slow call may well put an older version back into the cache; the next call with the
newer one does not take it.
-/

namespace VerdaCapi.Cloud

open Remote Go Api

/-! ## Identity Secrets -/

/-- `cloud.Credentials`. -/
structure Credentials where
  baseURL : Bytes := []
  clientID : Bytes := []
  clientSecret : Bytes := []
deriving DecidableEq

/-- One version of an identity Secret. -/
structure IdentitySecret where
  ns : String
  name : String
  resourceVersion : String
  data : List (String × Bytes) := []
deriving DecidableEq

namespace IdentitySecret

/-- Its `ObjectKey`. -/
def key (s : IdentitySecret) : String × String := (s.ns, s.name)

/-- `ObjectKey.String`. -/
def keyString (s : IdentitySecret) : String := s.ns ++ "/" ++ s.name

/-- A value of the Secret; a key that is not there has the empty value. -/
def value (s : IdentitySecret) (key : String) : Bytes := (s.data.lookup key).getD []

/-- The credentials in the Secret. -/
def credentials (s : IdentitySecret) : Credentials where
  clientID := s.value "client-id"
  clientSecret := s.value "client-secret"
  baseURL := s.value "base-url"

/-- Whether Kubernetes accepts its namespace and name. -/
def valid (s : IdentitySecret) : Bool := validNamespace s.ns && validName s.name

end IdentitySecret

/-- The identity Secrets that exist, and all versions there ever were. The API server never gives two
versions of a Secret with different contents the same `resourceVersion`, whether the Secret was updated
or deleted and created again. -/
structure SecretStore where
  current : Table IdentitySecret.key := default
  versions : List IdentitySecret := []
  stored : ∀ s ∈ current.rows, s ∈ versions := by decide
  valid : ∀ s ∈ versions, s.valid = true := by decide
  determined : ∀ s ∈ versions, ∀ s' ∈ versions, s.key = s'.key →
    s.resourceVersion = s'.resourceVersion → s = s' := by decide

namespace SecretStore

/-- What the API server asks of a new version. -/
abbrev Accepts (st : SecretStore) (s : IdentitySecret) : Prop :=
  s.valid = true ∧
    ∀ s' ∈ st.versions, s'.key = s.key → s'.resourceVersion = s.resourceVersion → s' = s

/-- Create a Secret, or replace the one of its name. -/
def write (st : SecretStore) (s : IdentitySecret) (h : st.Accepts s) : SecretStore where
  current := st.current.put s
  versions := s :: st.versions
  stored := by
    intro s' hs'
    rcases Table.mem_put.1 hs' with rfl | ⟨hs', -⟩
    · exact List.mem_cons_self
    · exact List.mem_cons_of_mem _ (st.stored s' hs')
  valid := by
    intro s' hs'
    rcases List.mem_cons.1 hs' with rfl | hs'
    · exact h.1
    · exact st.valid s' hs'
  determined := by
    intro s₁ h₁ s₂ h₂ hkey hversion
    rcases List.mem_cons.1 h₁ with rfl | h₁' <;> rcases List.mem_cons.1 h₂ with rfl | h₂'
    · rfl
    · exact (h.2 s₂ h₂' hkey.symm hversion.symm).symm
    · exact h.2 s₁ h₁' hkey hversion
    · exact st.determined s₁ h₁' s₂ h₂' hkey hversion

/-- Delete a Secret. Its versions were there all the same. -/
def delete (st : SecretStore) (ns name : String) : SecretStore where
  current := st.current.filter fun s => decide (s.key ≠ (ns, name))
  versions := st.versions
  stored s hs := st.stored s (Table.mem_filter.1 hs).1
  valid := st.valid
  determined := st.determined

theorem namespace_valid (st : SecretStore) {s : IdentitySecret} (h : s ∈ st.versions) :
    validNamespace s.ns = true :=
  (Bool.and_eq_true_iff.1 (st.valid s h)).1

end SecretStore

/-! ## `ClientFor` -/

/-- A `Client`: the credentials it was built from, and which of the clients with them it is. -/
structure BuiltClient where
  credentials : Credentials
  serial : Nat
deriving DecidableEq

/-- `cachedClient`. -/
structure CachedClient where
  resourceVersion : String
  client : BuiltClient
deriving DecidableEq

/-- What a call of `ClientFor` does outside its own variables: it reads a Secret, takes and releases
`mu`, calls `newClient`, and reads and writes the map `cache`. -/
inductive FactoryCall where
  | getSecret (ns name : String)
  | lock
  | load (cacheKey : String)
  | newClient (creds : Credentials)
  | store (cacheKey : String) (c : CachedClient)
  | unlock
deriving DecidableEq

/-- The answers. -/
abbrev FactoryCall.Res : FactoryCall → Type
  | .getSecret _ _ => Except Err IdentitySecret
  | .lock => Unit
  | .load _ => Option CachedClient
  | .newClient _ => Except Err BuiltClient
  | .store _ _ => Unit
  | .unlock => Unit

/-- Programs of the factory. -/
abbrev FactoryM := Prog FactoryCall FactoryCall.Res

namespace SecretFactory

/-- `f.Reader.Get`. -/
def getSecret (ns name : String) : FactoryM (Except Err IdentitySecret) :=
  Prog.perform (FactoryCall.getSecret ns name)

/-- `f.mu.Lock`. -/
def lock : FactoryM Unit := Prog.perform FactoryCall.lock

/-- `f.mu.Unlock`. -/
def unlock : FactoryM Unit := Prog.perform FactoryCall.unlock

/-- `f.cache[cacheKey]`. The map that is made when `cache` is still nil reads like the nil one. -/
def load (cacheKey : String) : FactoryM (Option CachedClient) := Prog.perform (FactoryCall.load cacheKey)

/-- `f.cache[cacheKey] = c`. -/
def store (cacheKey : String) (c : CachedClient) : FactoryM Unit :=
  Prog.perform (FactoryCall.store cacheKey c)

/-- `f.NewClient`, or `NewClient` where that is nil. -/
def newClient (creds : Credentials) : FactoryM (Except Err BuiltClient) :=
  Prog.perform (FactoryCall.newClient creds)

/-- The part of `ClientFor` under the lock after a miss. -/
def build (cacheKey resourceVersion : String) (creds : Credentials) :
    FactoryM (Except Err BuiltClient) := do
  match ← newClient creds with
  | .error e => return .error e
  | .ok c =>
    store cacheKey ⟨resourceVersion, c⟩
    return .ok c

/-- The part of `ClientFor` under the lock. -/
def cached (cacheKey resourceVersion : String) (creds : Credentials) :
    FactoryM (Except Err BuiltClient) := do
  match ← load cacheKey with
  | some c =>
    if c.resourceVersion = resourceVersion then return .ok c.client
    else build cacheKey resourceVersion creds
  | none => build cacheKey resourceVersion creds

/-- `(*SecretFactory).ClientFor`, where `global` is the field `Global`. -/
def clientFor (global : Option BuiltClient) (identity : Identity) :
    FactoryM (Except Err BuiltClient) :=
  if identity.secretName = "" then
    match global with
    | none =>
      return .error ⟨.other, "no identityRef set and the manager has no global Verda credentials"⟩
    | some c => return .ok c
  else do
    let key := identity.ns ++ "/" ++ identity.secretName
    match ← getSecret identity.ns identity.secretName with
    | .error e => return .error (e.wrap ("getting identity secret " ++ key))
    | .ok secret =>
      let creds := secret.credentials
      if creds.clientID = [] ∨ creds.clientSecret = [] then
        return .error ⟨.other,
          "identity secret " ++ key ++ " must have client-id and client-secret"⟩
      else
        lock
        let r ← cached key secret.resourceVersion creds
        -- the deferred `Unlock`
        unlock
        return r

end SecretFactory

/-! ## Calls in parallel -/

/-- What the calls share: the Secrets, the call that holds `mu`, and the map `cache`. -/
structure FactoryWorld (ι : Type) where
  secrets : SecretStore := {}
  holder : Option ι := none
  cache : Table (Prod.fst : String × CachedClient → String) := default

/-- How a request goes: a read answers with the Secret that exists or, from a reader that is behind,
with a version it had, or it fails; `NewClient` builds a client or fails. -/
inductive FactoryChoice where
  | proceed
  | behind (secret : IdentitySecret)
  | built (serial : Nat)
  | fail (e : Err)

/-- What happens besides: a Secret is created, rotated or created again, or it is deleted. `unwind` is
the deferred `Unlock` of a call that panicked; it may come at any time, as nothing below rests on it. -/
inductive SecretDrift where
  | write (secret : IdentitySecret)
  | delete (ns name : String)
  | unwind

section

variable {ι : Type}

/-- The answer to a request of call `i`. -/
def factoryAnswer (i : ι) (ch : FactoryChoice) (w : FactoryWorld ι) :
    (o : FactoryCall) → Option (FactoryCall.Res o × FactoryWorld ι)
  | .getSecret ns name =>
    match ch with
    | .proceed =>
      match w.secrets.current.get (ns, name) with
      | some secret => some (.ok secret, w)
      | none => some (.error errNotFound, w)
    | .behind secret =>
      if secret ∈ w.secrets.versions ∧ secret.key = (ns, name) then some (.ok secret, w) else none
    | .built _ => none
    | .fail e => some (.error e, w)
  | .lock =>
    match w.holder with
    | none => some ((), { w with holder := some i })
    | some _ => none
  | .load cacheKey => some ((w.cache.get cacheKey).map Prod.snd, w)
  | .newClient creds =>
    match ch with
    | .built serial => some (.ok ⟨creds, serial⟩, w)
    | .fail e => some (.error e, w)
    | _ => none
  | .store cacheKey c => some ((), { w with cache := w.cache.put (cacheKey, c) })
  | .unlock => some ((), { w with holder := none })

/-- What happens besides the calls. -/
def factoryDrift (d : SecretDrift) (w : FactoryWorld ι) : Option (FactoryWorld ι) :=
  match d with
  | .write secret =>
    if h : w.secrets.Accepts secret then some { w with secrets := w.secrets.write secret h } else none
  | .delete ns name => some { w with secrets := w.secrets.delete ns name }
  | .unwind => some { w with holder := none }

/-- Any number of calls of `ClientFor`; each returns its identity next to its result. -/
def factorySystem (global : Option BuiltClient) :
    System ι (FactoryWorld ι) FactoryCall FactoryCall.Res Unit (Identity × Except Err BuiltClient)
      Identity FactoryChoice Unit SecretDrift Unit where
  start _ identity _ := do
    let r ← SecretFactory.clientFor global identity
    return (identity, r)
  answer := factoryAnswer
  persist _ _ _ _ := ()
  drift := factoryDrift
  edit _ _ := none

/-- The requests that were answered. -/
abbrev FactoryHistory (ι : Type) := History ι FactoryCall FactoryCall.Res

/-- A state of the system, with its history. -/
abbrev FactoryState (ι : Type) :=
  State ι (FactoryWorld ι × FactoryHistory ι) FactoryCall FactoryCall.Res Unit
    (Identity × Except Err BuiltClient)

/-- The answer to a read of a Secret. -/
def readAnswer : (Σ o, FactoryCall.Res o) → Option (Except Err IdentitySecret)
  | ⟨.getSecret _ _, x⟩ => some x
  | _ => none

/-- What call `i`, or the one before it in this thread, read last. -/
def lastRead [DecidableEq ι] (i : ι) (h : FactoryHistory ι) : Option (Except Err IdentitySecret) :=
  h.last i readAnswer

/-- The client was built from this version, which is stored under this key of the cache. -/
structure BuiltFrom (secret : IdentitySecret) (cacheKey : String) (c : CachedClient) : Prop where
  key : secret.keyString = cacheKey
  version : secret.resourceVersion = c.resourceVersion
  credentials : c.client.credentials = secret.credentials

/-- Every client in the cache was built from a version of its Secret. -/
def CacheRight (w : FactoryWorld ι) : Prop :=
  ∀ row ∈ w.cache.rows, ∃ secret ∈ w.secrets.versions, BuiltFrom secret row.1 row.2

/-! ## What a request does -/

variable {i : ι} {ch : FactoryChoice} {w w' : FactoryWorld ι} {secret : IdentitySecret}

theorem factoryAnswer_getSecret {ns name : String}
    (h : factoryAnswer i ch w (.getSecret ns name) = some (.ok secret, w')) :
    secret ∈ w.secrets.versions ∧ secret.key = (ns, name) := by
  cases ch with
  | proceed =>
    simp only [factoryAnswer] at h
    split at h
    · rename_i found hfound
      obtain ⟨hrow, hkey⟩ := Table.get_eq_some_iff.1 hfound
      cases h
      exact ⟨w.secrets.stored _ hrow, hkey⟩
    · cases h
  | behind old =>
    simp only [factoryAnswer] at h
    split at h
    · rename_i hold
      cases h
      exact hold
    · cases h
  | built serial => cases h
  | fail e => cases h

theorem factoryAnswer_load {cacheKey : String} {c : CachedClient}
    (h : factoryAnswer i ch w (.load cacheKey) = some (some c, w')) :
    (cacheKey, c) ∈ w.cache.rows := by
  simp only [factoryAnswer, Option.some.injEq, Prod.mk.injEq, Option.map_eq_some_iff] at h
  obtain ⟨⟨⟨key, _⟩, hfound, rfl⟩, -⟩ := h
  obtain ⟨hrow, rfl⟩ := Table.get_eq_some_iff.1 hfound
  exact hrow

theorem factoryAnswer_newClient {creds : Credentials} {c : BuiltClient}
    (h : factoryAnswer i ch w (.newClient creds) = some (.ok c, w')) : c.credentials = creds := by
  cases ch with
  | built serial =>
    cases h
    rfl
  | proceed => cases h
  | behind old => cases h
  | fail e => cases h

/-- No request changes the Secrets. -/
theorem factoryAnswer_secrets {o : FactoryCall} {x : FactoryCall.Res o}
    (h : factoryAnswer i ch w o = some (x, w')) : w'.secrets = w.secrets := by
  cases o <;> simp only [factoryAnswer] at h <;> repeat' split at h
  all_goals cases h <;> rfl

/-- Only a write to the cache changes it. -/
theorem factoryAnswer_cache {o : FactoryCall} {x : FactoryCall.Res o}
    (h : factoryAnswer i ch w o = some (x, w')) {row : String × CachedClient}
    (hrow : row ∈ w'.cache.rows) : row ∈ w.cache.rows ∨ o = .store row.1 row.2 := by
  cases o with
  | store cacheKey c =>
    cases h
    rcases Table.mem_put.1 hrow with rfl | ⟨hrow, -⟩
    · exact .inr rfl
    · exact .inl hrow
  | _ =>
    left
    simp only [factoryAnswer] at h
    repeat' split at h
    all_goals cases h <;> exact hrow

/-- A version that was there stays known. -/
theorem factoryDrift_versions {d : SecretDrift} (h : factoryDrift d w = some w')
    (hsecret : secret ∈ w.secrets.versions) : secret ∈ w'.secrets.versions := by
  cases d with
  | write new =>
    simp only [factoryDrift] at h
    split at h
    · cases h
      exact List.mem_cons_of_mem _ hsecret
    · cases h
  | delete ns name =>
    cases h
    exact hsecret
  | unwind =>
    cases h
    exact hsecret

theorem factoryDrift_cache {d : SecretDrift} (h : factoryDrift d w = some w') : w'.cache = w.cache := by
  cases d <;> simp only [factoryDrift] at h <;> repeat' split at h
  all_goals cases h <;> rfl

/-- The entry of a Secret at the `resourceVersion` of a version was built from that version: no other
has the same key and the same `resourceVersion`. -/
theorem CacheRight.hit (hw : CacheRight w) (hsecret : secret ∈ w.secrets.versions)
    {row : String × CachedClient} (hrow : row ∈ w.cache.rows) (hkey : secret.keyString = row.1)
    (hversion : secret.resourceVersion = row.2.resourceVersion) :
    row.2.client.credentials = secret.credentials := by
  obtain ⟨origin, horigin, hbuilt⟩ := hw row hrow
  have hnames := namespacedName_inj (w.secrets.namespace_valid horigin)
    (w.secrets.namespace_valid hsecret) (hbuilt.key.trans hkey.symm)
  have hsame : origin = secret := w.secrets.determined origin horigin secret hsecret
    (Prod.ext hnames.1 hnames.2) (hbuilt.version.trans hversion.symm)
  rw [hbuilt.credentials, hsame]

theorem CacheRight.answer {o : FactoryCall} {x : FactoryCall.Res o}
    (hw : CacheRight w) (hans : factoryAnswer i ch w o = some (x, w'))
    (hstore : ∀ cacheKey c, o = .store cacheKey c →
      ∃ secret ∈ w.secrets.versions, BuiltFrom secret cacheKey c) : CacheRight w' := by
  intro row hrow
  rw [factoryAnswer_secrets hans]
  rcases factoryAnswer_cache hans hrow with hold | hstored
  · exact hw row hold
  · exact hstore row.1 row.2 hstored

theorem CacheRight.drift {d : SecretDrift} (hw : CacheRight w)
    (hd : factoryDrift d w = some w') : CacheRight w' := by
  intro row hrow
  rw [factoryDrift_cache hd] at hrow
  obtain ⟨secret, hsecret, hbuilt⟩ := hw row hrow
  exact ⟨secret, factoryDrift_versions hd hsecret, hbuilt⟩

/-! ## Clients are built from what was read -/

variable [DecidableEq ι]

/-- The version call `i` has read. -/
def HasRead (i : ι) (secret : IdentitySecret) (w : FactoryWorld ι × FactoryHistory ι) : Prop :=
  secret ∈ w.1.secrets.versions ∧ lastRead i w.2 = some (.ok secret)

/-- What is served to call `i` for an identity: the global client, or one that was built from the version
of the Secret which the call has read. -/
def Served (global : Option BuiltClient) (i : ι) (identity : Identity) (client : BuiltClient)
    (w : FactoryWorld ι × FactoryHistory ι) : Prop :=
  if identity.secretName = "" then global = some client
  else ∃ secret, HasRead i secret w ∧ secret.key = (identity.ns, identity.secretName) ∧
    client.credentials = secret.credentials

/-- The cache is right, and a client is put there only next to the version it was built from. -/
def servesRead (global : Option BuiltClient) : Invariant (factorySystem (ι := ι) global).traced {} where
  inv w := CacheRight w.1
  loc _ _ _ := True
  rely i w w' := (∀ secret ∈ w.1.secrets.versions, secret ∈ w'.1.secrets.versions) ∧
    lastRead i w'.2 = lastRead i w.2
  guar _ _ w o := ∀ cacheKey c, o = .store cacheKey c →
    ∃ secret ∈ w.1.secrets.versions, BuiltFrom secret cacheKey c
  done i _ r w := ∀ client, r.2 = .ok client → Served global i r.1 client w

theorem servesRead_lawful (global : Option BuiltClient) (i : ι) :
    ((servesRead global).setting i ()).Lawful where
  refl _ := ⟨fun _ h => h, rfl⟩
  trans h h' := ⟨fun s hs => h'.1 s (h.1 s hs), h'.2.trans h.2⟩

theorem stable_hasRead (global : Option BuiltClient) (i : ι) (secret : IdentitySecret) :
    ((servesRead global).setting i ()).Stable (HasRead i secret) :=
  fun _ _ h hr _ => ⟨hr.1 secret h.1, hr.2.trans h.2⟩

variable {global : Option BuiltClient}

theorem servesRead_step {w w' : FactoryWorld ι × FactoryHistory ι} {o : FactoryCall}
    {x : FactoryCall.Res o} (hs : ((servesRead global).setting i ()).step w o x w') :
    ∃ ch, factoryAnswer i ch w.1 o = some (x, w'.1) ∧ w'.2 = (i, ⟨o, x⟩) :: w.2 := by
  obtain ⟨-, ch, hans⟩ := hs
  exact ⟨ch, System.traced_answer hans⟩

/-- Whatever else the call asks for, it has read what it has read. -/
theorem HasRead.answered {w w' : FactoryWorld ι × FactoryHistory ι} {o : FactoryCall}
    {x : FactoryCall.Res o} (h : HasRead i secret w)
    (hs : ((servesRead global).setting i ()).step w o x w') (ho : readAnswer ⟨o, x⟩ = none) :
    HasRead i secret w' := by
  obtain ⟨ch, hans, hhist⟩ := servesRead_step hs
  refine ⟨?_, ?_⟩
  · rw [factoryAnswer_secrets hans]
    exact h.1
  · rw [hhist, lastRead, History.last_cons_skip ho]
    exact h.2

/-- A read that succeeds tells a version of the Secret that was asked for. -/
theorem hasRead_of_answer {w w' : FactoryWorld ι × FactoryHistory ι} {ns name : String}
    (hs : ((servesRead global).setting i ()).step w (.getSecret ns name) (.ok secret) w') :
    HasRead i secret w' ∧ secret.key = (ns, name) := by
  obtain ⟨ch, hans, hhist⟩ := servesRead_step hs
  obtain ⟨hversion, hkey⟩ := factoryAnswer_getSecret hans
  rw [← factoryAnswer_secrets hans] at hversion
  refine ⟨⟨hversion, ?_⟩, hkey⟩
  rw [hhist]
  exact History.last_cons_pick rfl

/-- The rule for a request after the read: what it writes to the cache was built from the version that
was read, which the call keeps in mind. -/
theorem HasRead.wp_call {α : Type} {w : FactoryWorld ι × FactoryHistory ι} {o : FactoryCall}
    {next : FactoryCall.Res o → FactoryM α} {Q : α → FactoryWorld ι × FactoryHistory ι → Prop}
    (h : HasRead i secret w) (hskip : ∀ x, readAnswer ⟨o, x⟩ = none)
    (hstore : ∀ cacheKey c, o = .store cacheKey c → BuiltFrom secret cacheKey c)
    (hnext : ∀ x w w', HasRead i secret w → CacheRight w.1 →
      ((servesRead global).setting i ()).step w o x w' → HasRead i secret w' →
        (next x).wp ((servesRead global).setting i ()) Q w') :
    (Prog.call o next).wp ((servesRead global).setting i ()) Q w := by
  refine Prog.wp_call (stable_hasRead global i secret) h fun w hw hi => ⟨fun cacheKey c ho => ?_, ?_⟩
  · exact ⟨secret, hw.1, hstore cacheKey c ho⟩
  · exact fun x w' hs _ => hnext x w w' hw hi.1 hs (hw.answered hs (hskip x))

/-- What the locked part returns was built from the Secret that was read. -/
abbrev BuiltAsRead (i : ι) (secret : IdentitySecret) (r : Except Err BuiltClient)
    (w : FactoryWorld ι × FactoryHistory ι) : Prop :=
  HasRead i secret w ∧ ∀ client, r = .ok client → client.credentials = secret.credentials

theorem build_asRead {w : FactoryWorld ι × FactoryHistory ι} (h : HasRead i secret w) :
    (SecretFactory.build secret.keyString secret.resourceVersion secret.credentials).wp
      ((servesRead global).setting i ()) (BuiltAsRead i secret) w := by
  have hstable := stable_hasRead global i secret
  refine h.wp_call (fun _ => rfl) (fun _ _ ho => by cases ho) fun x w w' _ _ hs hw' => ?_
  cases x with
  | error e => exact Prog.wp_ret hstable hw' fun w hw _ => ⟨hw, fun _ hr => (by cases hr)⟩
  | ok client =>
    obtain ⟨ch, hans, -⟩ := servesRead_step hs
    have hcreds := factoryAnswer_newClient hans
    refine hw'.wp_call (fun _ => rfl) ?_ fun _ w w' _ _ _ hw' => ?_
    · rintro _ _ ⟨⟩
      exact ⟨rfl, rfl, hcreds⟩
    · refine Prog.wp_ret hstable hw' fun w hw _ => ⟨hw, ?_⟩
      rintro _ ⟨⟩
      exact hcreds

theorem cached_asRead {w : FactoryWorld ι × FactoryHistory ι} (h : HasRead i secret w) :
    (SecretFactory.cached secret.keyString secret.resourceVersion secret.credentials).wp
      ((servesRead global).setting i ()) (BuiltAsRead i secret) w := by
  refine h.wp_call (fun _ => rfl) (fun _ _ ho => by cases ho) fun x w w' hw hright hs hw' => ?_
  cases x with
  | none => exact build_asRead hw'
  | some c =>
    change Prog.wp _ (ite _ _ _) _ _
    split
    · rename_i hversion
      obtain ⟨ch, hans, -⟩ := servesRead_step hs
      have hcreds := hright.hit hw.1 (factoryAnswer_load hans) rfl hversion.symm
      refine Prog.wp_ret (stable_hasRead global i secret) hw' fun w hw _ => ⟨hw, ?_⟩
      rintro _ ⟨⟩
      exact hcreds
    · exact build_asRead hw'

theorem clientFor_served (identity : Identity) (w : FactoryWorld ι × FactoryHistory ι) :
    (SecretFactory.clientFor global identity).wp ((servesRead global).setting i ())
      (fun r w => ∀ client, r = .ok client → Served global i identity client w) w := by
  have hlawful := servesRead_lawful global i
  unfold SecretFactory.clientFor
  split
  · rename_i hempty
    cases global with
    | none => exact fun w _ _ _ hr => by cases hr
    | some c =>
      rintro w _ _ _ ⟨⟩
      exact (if_pos hempty).mpr rfl
  · rename_i hnamed
    refine Prog.wp_call_any fun w _ => ⟨fun _ _ ho => (by cases ho), fun x w' hs _ => ?_⟩
    cases x with
    | error e => exact fun w _ _ _ hr => by cases hr
    | ok secret =>
      change Prog.wp _ (ite _ _ _) _ _
      split
      · exact fun w _ _ _ hr => by cases hr
      · obtain ⟨hread, hkey⟩ := hasRead_of_answer hs
        have hstring : identity.ns ++ "/" ++ identity.secretName = secret.keyString :=
          congrArg (fun key => key.1 ++ "/" ++ key.2) hkey.symm
        rw [hstring]
        refine hread.wp_call (fun _ => rfl) (fun _ _ ho => by cases ho) fun _ w w' _ _ _ hw' => ?_
        change Prog.wp _ (SecretFactory.cached _ _ _ >>= _) _ _
        refine Prog.wp_bind hlawful (Prog.wp_mono ?_ (cached_asRead hw'))
        rintro r w - ⟨hw, hr⟩
        refine hw.wp_call (fun _ => rfl) (fun _ _ ho => by cases ho) fun _ w w' _ _ _ hw' => ?_
        refine Prog.wp_ret (stable_hasRead global i secret) hw' fun w hw _ client hclient => ?_
        rw [Served, if_neg hnamed]
        exact ⟨secret, hw, hkey, hr client hclient⟩

theorem servesRead_valid (global : Option BuiltClient) : (servesRead (ι := ι) global).Valid where
  refl i := (servesRead_lawful global i).refl
  trans i := (servesRead_lawful global i).trans
  drift := by
    intro d w w' hinv hd
    obtain ⟨hd, hhist⟩ := System.traced_drift hd
    refine ⟨hinv.drift hd, fun i => ⟨fun _ => ⟨fun _ hs => factoryDrift_versions hd hs, ?_⟩, fun _ h => h⟩⟩
    rw [hhist]
  edit _ he := nomatch he
  touched _ hloc _ := hloc
  merge _ hp := ⟨_, hp, rfl⟩
  call := by
    intro i obj c w o x w' hinv hloc _ hguar hans
    obtain ⟨hans, hhist⟩ := System.traced_answer hans
    refine ⟨hinv.answer hans hguar, hloc, fun j hj => ⟨⟨fun secret hs => ?_, ?_⟩, fun _ h => h⟩⟩
    · rw [factoryAnswer_secrets hans]
      exact hs
    · rw [hhist, lastRead, History.last_cons_other hj.symm, lastRead]
  pass := by
    intro i inp obj w _ _ _
    refine Prog.wp_map (Prog.wp_mono ?_ (clientFor_served inp w))
    exact fun r w _ hr => ⟨hr, fun _ _ => trivial⟩

/-- Before the first call the cache is empty. The Secrets may be any. -/
structure FactoryInitial (s : FactoryState ι) : Prop where
  cache : s.world.1.cache.rows = []
  idle : ∀ i, s.run i = none

theorem servesRead_holds {s₀ s : FactoryState ι} (h₀ : FactoryInitial s₀)
    (h : Reach (factorySystem global).traced {} s₀ s) : (servesRead global).Holds s := by
  refine Invariant.sound (servesRead_valid global) (fun row hrow => ?_) (fun _ => trivial) h₀.idle h
  rw [h₀.cache] at hrow
  cases hrow

/-- The client opens the account: it is the global one, or has the credentials the Secret had at some
time. -/
def Opens (global : Option BuiltClient) (st : SecretStore) (client : BuiltClient) : AccountID → Prop
  | .global => global = some client
  | .secret ns name => ∃ secret ∈ st.versions, secret.key = (ns, name) ∧
      client.credentials = secret.credentials

/-- A client that is served opens the account of its identity. -/
theorem clientFor_opens {s₀ s : FactoryState ι} (h₀ : FactoryInitial s₀)
    (h : Reach (factorySystem global).traced {} s₀ s) {identity : Identity} {client : BuiltClient}
    (hrun : s.run i = some (.ret (identity, .ok client))) :
    Opens global s.world.1.secrets client (accountOf identity) := by
  have hserved := (servesRead_holds h₀ h).done (servesRead_valid global) hrun client rfl
  unfold accountOf
  by_cases hempty : identity.secretName = ""
  · rw [if_pos hempty]
    rw [Served, if_pos hempty] at hserved
    exact hserved
  · rw [if_neg hempty]
    rw [Served, if_neg hempty] at hserved
    obtain ⟨secret, hread, hkey, hcreds⟩ := hserved
    exact ⟨secret, hread.1, hkey, hcreds⟩

/-- **The cache never serves another client than the one of the version that was read.** Whatever other
calls do and however Secrets are rotated, deleted and created again, a call for a Secret that succeeds
returns a client with the credentials of the version it has read. An entry of the cache comes from a
version of the Secret of its key, and has the credentials of that Secret at its `resourceVersion`. -/
theorem clientFor_serves {s₀ s : FactoryState ι} (h₀ : FactoryInitial s₀)
    (h : Reach (factorySystem global).traced {} s₀ s) :
    (∀ i identity client, s.run i = some (.ret (identity, .ok client)) → identity.secretName ≠ "" →
      ∃ secret ∈ s.world.1.secrets.versions, lastRead i s.world.2 = some (.ok secret) ∧
        secret.ns = identity.ns ∧ secret.name = identity.secretName ∧
        client.credentials = secret.credentials) ∧
    ∀ row ∈ s.world.1.cache.rows,
      (∃ secret ∈ s.world.1.secrets.versions, BuiltFrom secret row.1 row.2) ∧
      ∀ secret ∈ s.world.1.secrets.versions, secret.keyString = row.1 →
        secret.resourceVersion = row.2.resourceVersion →
        row.2.client.credentials = secret.credentials := by
  have hholds := servesRead_holds h₀ h
  refine ⟨fun i identity client hrun hnamed => ?_, fun row hrow => ⟨hholds.inv row hrow, ?_⟩⟩
  · have hserved := hholds.done (servesRead_valid global) hrun client rfl
    rw [Served, if_neg hnamed] at hserved
    obtain ⟨secret, ⟨hversion, hread⟩, hkey, hcreds⟩ := hserved
    exact ⟨secret, hversion, hread, congrArg Prod.fst hkey, congrArg Prod.snd hkey, hcreds⟩
  · exact fun secret hsecret hkey hversion => hholds.inv.hit hsecret hrow hkey hversion

end

/-! ## A run with a slow call -/

/-- A version of the Secret of a tenant. -/
def tenantSecret (resourceVersion : String) (password : UInt8) : IdentitySecret where
  ns := "default"
  name := "verda"
  resourceVersion := resourceVersion
  data := [("client-id", [1]), ("client-secret", [password])]

/-- The identity of that tenant. -/
def tenant : Identity := ⟨"default", "verda"⟩

/-- The requests of a call after its read, if it misses. -/
def misses (i : Bool) (serial : Nat) :
    List (Move Bool Identity FactoryChoice Unit SecretDrift Unit) :=
  [.answer i .proceed, .answer i .proceed, .answer i (.built serial), .answer i .proceed,
    .answer i .proceed]

/-- The slow call reads the Secret before it is rotated and stores its client after the quick one has
stored the newer client. The next call reads the newer version and misses. -/
theorem clientFor_serves_sample : ∃ s : FactoryState Bool,
    s.run false = some (.ret (tenant, .ok ⟨(tenantSecret "1" 1).credentials, 0⟩)) ∧
    s.run true = some (.ret (tenant, .ok ⟨(tenantSecret "2" 2).credentials, 2⟩)) ∧
    ∃ secret ∈ s.world.1.secrets.versions, lastRead true s.world.2 = some (.ok secret) ∧
      secret.ns = tenant.ns ∧ secret.name = tenant.secretName ∧
      (tenantSecret "2" 2).credentials = secret.credentials := by
  obtain ⟨s, hs, hgood⟩ := exists_reach_of_run (factorySystem none).traced
    (State.traced { world := {}, obj := fun _ => (), run := fun _ => none } : FactoryState Bool)
    (fun s => decide (s.returned false = some (tenant, .ok ⟨(tenantSecret "1" 1).credentials, 0⟩)) &&
      decide (s.returned true = some (tenant, .ok ⟨(tenantSecret "2" 2).credentials, 2⟩)))
    ([.drift (.write (tenantSecret "1" 1)), .start false tenant, .answer false .proceed,
        .drift (.write (tenantSecret "2" 2)), .start true tenant, .answer true .proceed] ++
      misses true 1 ++ [.finish true ()] ++ misses false 0 ++
      [.start true tenant, .answer true .proceed] ++ misses true 2)
    (by decide +kernel)
  rcases Bool.and_eq_true_iff.1 hgood with ⟨hslow, hquick⟩
  have hquick := State.returned_eq_some (of_decide_eq_true hquick)
  refine ⟨s, State.returned_eq_some (of_decide_eq_true hslow), hquick, ?_⟩
  exact (clientFor_serves ⟨rfl, fun _ => rfl⟩ hs).1 true tenant _ hquick (by decide)

end VerdaCapi.Cloud

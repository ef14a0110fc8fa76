import ScheduleSync.Separation
import ScheduleSync.Transition

/-! The credential store. The DEK row of a user is written once and read back many
times, each time in a statement of its own; what holds across all interleavings is that
a DEK once read stays the stored one for as long as the account exists, so every
ciphertext row opens under the stored DEK to what was saved last. -/
namespace ScheduleSync

/-- The input of the newest committed save of a user. -/
def lastSaved (saved : List (Uuid × CredentialsInput)) (userID : Uuid) : Option CredentialsInput :=
  (saved.find? fun p => p.1 == userID).map Prod.snd

theorem lastSaved_cons (userID uid : Uuid) (input : CredentialsInput)
    (saved : List (Uuid × CredentialsInput)) :
    lastSaved ((userID, input) :: saved) uid =
      if userID = uid then some input else lastSaved saved uid := by
  by_cases h : userID = uid <;> simp [lastSaved, h]

def DB.HoldsKey (env : Env) (db : DB) (userID : Uuid) (plainDEK : Bytes) : Prop :=
  ∃ dek ∈ db.userDEKs, dek.userID = userID ∧ env.crypto.decryptDEK dek = some plainDEK

/-- Every DEK row decrypts and belongs to an account, and every credentials row opens
under the DEK of its user to what that user saved last. -/
structure DB.Coherent (env : Env) (saved : List (Uuid × CredentialsInput)) (db : DB) : Prop where
  deks : ∀ dek ∈ db.userDEKs, db.hasUser dek.userID = true ∧
    (env.crypto.decryptDEK dek).isSome = true
  rows : ∀ row ∈ db.starbucksCredentials, ∃ plainDEK input, db.HoldsKey env row.userID plainDEK ∧
    lastSaved saved row.userID = some input ∧
    openCredentials env.crypto env.json plainDEK row = .ok input

section Keys
variable {env : Env} {db : DB} {userID : Uuid}

theorem DB.HoldsKey.unique {k₁ k₂ : Bytes} (h₁ : db.HoldsKey env userID k₁)
    (h₂ : db.HoldsKey env userID k₂) : k₁ = k₂ := by
  obtain ⟨d₁, hd₁, hu₁, hk₁⟩ := h₁
  obtain ⟨d₂, hd₂, hu₂, hk₂⟩ := h₂
  have hrow : d₁ = d₂ := Table.eq_of_clash hd₁ hd₂ (hu₁.trans hu₂.symm)
  rw [hrow, hk₂] at hk₁
  exact (Option.some.inj hk₁).symm

theorem DB.mem_of_userDEK {dek : UserDEK} (h : db.userDEK userID = some dek) :
    dek ∈ db.userDEKs ∧ dek.userID = userID := by
  obtain ⟨hmem, hid⟩ := Table.queryRow_some h
  exact ⟨hmem, beq_iff_eq.mp hid⟩

theorem DB.mem_of_credentials {row : StarbucksCredentials} (h : db.credentials userID = some row) :
    row ∈ db.starbucksCredentials ∧ row.userID = userID := by
  obtain ⟨hmem, hid⟩ := Table.queryRow_some h
  exact ⟨hmem, beq_iff_eq.mp hid⟩

theorem DB.Coherent.hasUser {saved : List (Uuid × CredentialsInput)} {plainDEK : Bytes}
    (h : db.Coherent env saved) (hkey : db.HoldsKey env userID plainDEK) :
    db.hasUser userID = true := by
  obtain ⟨dek, hdek, hu, _⟩ := hkey
  rw [← hu]
  exact (h.deks dek hdek).1

end Keys

/-- The store is coherent, counting what was saved before this process started, and all
accounts have drawn ids. -/
structure World.Coherent (env : Env) (earlier : List (Uuid × CredentialsInput)) (w : World) :
    Prop where
  db : w.db.Coherent env (w.trace.saved ++ earlier)
  drawn : ∀ uid, w.db.hasUser uid = true → uid ∈ w.drawn

/-- A task that has read a DEK: it is still the one stored, unless the account is gone. -/
def Task.Knows (env : Env) (w : World) : Task → Prop
  | .writeCredentials uid (.upsert _ plainDEK) =>
    uid ∈ w.drawn ∧ (w.db.hasUser uid = true → w.db.HoldsKey env uid plainDEK)
  | .getCredentials _ (.loadRow uid plainDEK) =>
    uid ∈ w.drawn ∧ (w.db.hasUser uid = true → w.db.HoldsKey env uid plainDEK)
  | _ => True

/-- No account comes back, and no key of an account is lost. -/
structure KeepsKeys (env : Env) (w w' : World) : Prop where
  drawn : ∀ x ∈ w.drawn, x ∈ w'.drawn
  users : ∀ uid ∈ w.drawn, w'.db.hasUser uid = true → w.db.hasUser uid = true
  keys : ∀ uid plainDEK, w.db.HoldsKey env uid plainDEK → w'.db.hasUser uid = true →
    w'.db.HoldsKey env uid plainDEK

/-- Keys and credentials as they were; accounts may have been added. -/
structure SameKeys (w w' : World) : Prop where
  userDEKs : w'.db.userDEKs = w.db.userDEKs
  credentials : w'.db.starbucksCredentials = w.db.starbucksCredentials
  saved : w'.trace.saved = w.trace.saved
  drawn : ∀ x ∈ w.drawn, x ∈ w'.drawn
  kept : ∀ uid, w.db.hasUser uid = true → w'.db.hasUser uid = true
  fresh : ∀ uid, w'.db.hasUser uid = true →
    w.db.hasUser uid = true ∨ uid ∉ w.drawn ∧ uid ∈ w'.drawn

section Frames
variable {env : Env} {earlier : List (Uuid × CredentialsInput)} {w w' : World}

theorem Task.Knows.mono {t : Task} (hk : KeepsKeys env w w') (h : t.Knows env w) :
    t.Knows env w' := by
  have hpair : ∀ uid plainDEK, (uid ∈ w.drawn ∧
      (w.db.hasUser uid = true → w.db.HoldsKey env uid plainDEK)) →
      uid ∈ w'.drawn ∧ (w'.db.hasUser uid = true → w'.db.HoldsKey env uid plainDEK) := by
    intro uid plainDEK hold
    refine ⟨hk.drawn uid hold.1, fun hu => ?_⟩
    exact hk.keys uid plainDEK (hold.2 (hk.users uid hold.1 hu)) hu
  cases t with
  | writeCredentials uid pc =>
    cases pc with
    | upsert input plainDEK => exact hpair uid plainDEK h
    | _ => trivial
  | getCredentials key pc =>
    cases pc with
    | loadRow uid plainDEK => exact hpair uid plainDEK h
    | _ => trivial
  | _ => trivial

theorem KeepsKeys.of_eq (hdrawn : w'.drawn = w.drawn) (hdb : w'.db = w.db) : KeepsKeys env w w' := by
  refine ⟨?_, ?_, ?_⟩
  · intro x hx
    rwa [hdrawn]
  · intro uid _ hu
    rwa [← hdb]
  · intro uid plainDEK hk _
    rwa [hdb]

theorem SameKeys.keepsKeys (h : SameKeys w w') : KeepsKeys env w w' := by
  refine ⟨h.drawn, ?_, ?_⟩
  · intro uid hdrawn hu
    cases h.fresh uid hu with
    | inl hold => exact hold
    | inr hnew => exact absurd hdrawn hnew.1
  · intro uid plainDEK hk _
    unfold DB.HoldsKey
    rw [h.userDEKs]
    exact hk

theorem SameKeys.coherent (h : SameKeys w w') (hw : w.Coherent env earlier) :
    w'.Coherent env earlier := by
  refine ⟨⟨?_, ?_⟩, ?_⟩
  · intro dek hdek
    rw [h.userDEKs] at hdek
    exact ⟨h.kept _ (hw.db.deks dek hdek).1, (hw.db.deks dek hdek).2⟩
  · intro row hrow
    rw [h.credentials] at hrow
    rw [h.saved]
    obtain ⟨plainDEK, input, hk, hsaved⟩ := hw.db.rows row hrow
    refine ⟨plainDEK, input, ?_, hsaved⟩
    unfold DB.HoldsKey
    rw [h.userDEKs]
    exact hk
  · intro uid hu
    cases h.fresh uid hu with
    | inl hold => exact h.drawn uid (hw.drawn uid hold)
    | inr hnew => exact hnew.2

theorem SameKeys.of_hasUser (hdeks : w'.db.userDEKs = w.db.userDEKs)
    (hcreds : w'.db.starbucksCredentials = w.db.starbucksCredentials)
    (hsaved : w'.trace.saved = w.trace.saved) (hdrawn : ∀ x ∈ w.drawn, x ∈ w'.drawn)
    (hhas : ∀ uid, w'.db.hasUser uid = w.db.hasUser uid) : SameKeys w w' := by
  refine ⟨hdeks, hcreds, hsaved, hdrawn, ?_, ?_⟩
  · intro uid hu
    rw [hhas]
    exact hu
  · intro uid hu
    rw [hhas] at hu
    exact .inl hu

theorem SameKeys.of_vault (hvault : w'.db.vault = w.db.vault)
    (hsaved : w'.trace.saved = w.trace.saved) (hdrawn : ∀ x ∈ w.drawn, x ∈ w'.drawn) :
    SameKeys w w' := by
  have husers : w'.db.users = w.db.users := congrArg Vault.users hvault
  refine .of_hasUser (congrArg Vault.userDEKs hvault) (congrArg Vault.credentials hvault) hsaved
    hdrawn ?_
  intro uid
  rw [DB.hasUser, husers, DB.hasUser]

theorem Apart.sameKeys (h : Apart w w') (hdrawn : ∀ x ∈ w.drawn, x ∈ w'.drawn) : SameKeys w w' :=
  .of_vault h.vault h.saved hdrawn

end Frames

section Handlers
variable {env : Env} {o : Outcome} {earlier : List (Uuid × CredentialsInput)} {w w' : World}

theorem findOrCreateUser_sameKeys {email : String} {pc : FindUserPc} {r : FindUserResult}
    (h : findOrCreateUser o w email pc = some (w', r)) : SameKeys w w' := by
  have hdrawn := (findOrCreateUser_unrelated h).drawn
  cases findOrCreateUser_cases h with
  | insertFailed => exact Apart.sameKeys ⟨rfl, rfl, rfl⟩ hdrawn
  | inserted _ hnew hexec =>
    have hins := exec_eq_some hexec
    obtain ⟨t, ht, rfl⟩ := Option.map_eq_some_iff.mp hins
    refine ⟨rfl, rfl, rfl, hdrawn, fun uid hu => (DB.hasUser_insertUser hins).mpr (.inl hu), ?_⟩
    intro uid hu
    cases (DB.hasUser_insertUser hins).mp hu with
    | inl hold => exact .inl hold
    | inr heq =>
      subst heq
      exact .inr ⟨hnew, by simp⟩
  | _ => exact Apart.sameKeys (.refl w) hdrawn

theorem requestPin_sameKeys {email : String} {pc pc' : RequestPinPc}
    (h : requestPin env o w email pc = some (w', pc')) : SameKeys w w' := by
  have hdrawn := (requestPin_unrelated h).drawn
  cases requestPin_cases h with
  | store => exact .of_vault rfl rfl hdrawn
  | find hfind => exact findOrCreateUser_sameKeys hfind
  | found hfind => exact findOrCreateUser_sameKeys hfind
  | notFound hfind => exact findOrCreateUser_sameKeys hfind
  | mail => exact .of_vault rfl rfl hdrawn
  | _ => exact Apart.sameKeys (.refl w) hdrawn

theorem verifyPin_sameKeys {email pin : String} {pc pc' : VerifyPinPc}
    (h : verifyPin env o w email pin pc = some (w', pc')) : SameKeys w w' := by
  have hdrawn := (verifyPin_unrelated h).drawn
  cases verifyPin_cases h with
  | invalid => exact Apart.sameKeys (.refl w) hdrawn
  | refused => exact .of_vault rfl rfl hdrawn
  | verify => exact .of_vault rfl rfl hdrawn
  | find hfind => exact findOrCreateUser_sameKeys hfind
  | found hfind => exact findOrCreateUser_sameKeys hfind
  | notFound hfind => exact findOrCreateUser_sameKeys hfind
  | sessionFailed => exact Apart.sameKeys ⟨rfl, rfl, rfl⟩ hdrawn
  | createSession _ _ hexec =>
    exact .of_vault (DB.insertSession_vault (exec_eq_some hexec)) rfl hdrawn

theorem updateTimezone_sameKeys {userID : Uuid} {body : Except String String} :
    SameKeys w (updateTimezone env o w userID body).1 := by
  have hidle : SameKeys w w := Apart.sameKeys (.refl w) fun _ hx => hx
  cases body with
  | error msg => exact hidle
  | ok tz =>
    simp only [updateTimezone]
    split_ifs
    · exact hidle
    · exact hidle
    · exact .of_hasUser rfl rfl rfl (fun _ hx => hx) fun _ => DB.hasUser_updateTimezone

theorem deleteUser_coherent {id : Uuid} (hw : w.Coherent env earlier) :
    World.Coherent env earlier { w with db := w.db.deleteUser id } ∧
      KeepsKeys env w { w with db := w.db.deleteUser id } := by
  have hhas : ∀ uid, (w.db.deleteUser id).hasUser uid = true ↔
      w.db.hasUser uid = true ∧ uid ≠ id := fun _ => DB.hasUser_deleteUser
  have hkeys : ∀ uid plainDEK, uid ≠ id → w.db.HoldsKey env uid plainDEK →
      (w.db.deleteUser id).HoldsKey env uid plainDEK := by
    rintro uid plainDEK hne ⟨dek, hdek, rfl, hkey⟩
    exact ⟨dek, Table.mem_delete.mpr ⟨hdek, by simpa using hne⟩, rfl, hkey⟩
  refine ⟨⟨⟨?_, ?_⟩, ?_⟩, ⟨fun _ hx => hx, ?_, ?_⟩⟩
  · intro dek hdek
    obtain ⟨hmem, hne⟩ := Table.mem_delete.mp hdek
    obtain ⟨hu, hdec⟩ := hw.db.deks dek hmem
    exact ⟨(hhas _).mpr ⟨hu, by simpa using hne⟩, hdec⟩
  · intro row hrow
    obtain ⟨hmem, hne⟩ := Table.mem_delete.mp hrow
    obtain ⟨plainDEK, input, hkey, hsaved⟩ := hw.db.rows row hmem
    exact ⟨plainDEK, input, hkeys _ _ (by simpa using hne) hkey, hsaved⟩
  · intro uid hu
    exact hw.drawn uid ((hhas uid).mp hu).1
  · intro uid _ hu
    exact ((hhas uid).mp hu).1
  · intro uid plainDEK hkey hu
    exact hkeys uid plainDEK ((hhas uid).mp hu).2 hkey

theorem deleteAccount_coherent {userID : Uuid} (hw : w.Coherent env earlier) :
    (deleteAccount o w userID).1.Coherent env earlier ∧ KeepsKeys env w (deleteAccount o w userID).1 := by
  unfold deleteAccount
  split_ifs
  · exact ⟨hw, .of_eq rfl rfl⟩
  · exact deleteUser_coherent hw

theorem insertDEK_coherent {db : DB} {dek : UserDEK} {plainDEK : Bytes}
    (h : w.db.insertDEK dek = some db) (hdec : env.crypto.decryptDEK dek = some plainDEK)
    (hw : w.Coherent env earlier) :
    World.Coherent env earlier { w with db := db } ∧ KeepsKeys env w { w with db := db } ∧
      (dek.userID ∈ w.drawn ∧ db.HoldsKey env dek.userID plainDEK) := by
  unfold DB.insertDEK at h
  split_ifs at h with hu
  obtain ⟨t, ht, rfl⟩ := Option.map_eq_some_iff.mp h
  have hkeys : ∀ uid k, w.db.HoldsKey env uid k → DB.HoldsKey env { w.db with userDEKs := t } uid k := by
    rintro uid k ⟨d, hd, hid, hk⟩
    exact ⟨d, (Table.mem_of_insert ht).mpr (.inl hd), hid, hk⟩
  refine ⟨⟨⟨?_, ?_⟩, hw.drawn⟩, ⟨fun _ hx => hx, fun _ _ hx => hx, fun uid k hk _ => hkeys uid k hk⟩,
    hw.drawn _ hu, dek, (Table.mem_of_insert ht).mpr (.inr rfl), rfl, hdec⟩
  · intro d hd
    cases (Table.mem_of_insert ht).mp hd with
    | inl hold => exact hw.db.deks d hold
    | inr hnew =>
      subst hnew
      exact ⟨hu, by rw [hdec]; rfl⟩
  · intro row hrow
    obtain ⟨k, input, hk, hsaved⟩ := hw.db.rows row hrow
    exact ⟨k, input, hkeys _ _ hk, hsaved⟩

theorem mem_upsertCredentials {db db' : DB} {c : StarbucksCredentials}
    (h : db.upsertCredentials c = some db') :
    db.hasUser c.userID = true ∧ db'.userDEKs = db.userDEKs ∧ db'.users = db.users ∧
      ∀ row ∈ db'.starbucksCredentials,
        row ∈ db.starbucksCredentials ∧ row.userID ≠ c.userID ∨
          ∃ t, row = { c with createdAt := t } := by
  unfold DB.upsertCredentials at h
  split_ifs at h with hu hany
  · cases h
    refine ⟨hu, rfl, rfl, ?_⟩
    intro row hrow
    simp only [Table.mem_update] at hrow
    obtain ⟨x, hx, rfl⟩ := hrow
    split
    · rename_i hp
      exact .inr ⟨x.createdAt, by rw [beq_iff_eq.mp hp]⟩
    · rename_i hp
      exact .inl ⟨hx, by simpa using hp⟩
  · obtain ⟨t, ht, rfl⟩ := Option.map_eq_some_iff.mp h
    refine ⟨hu, rfl, rfl, ?_⟩
    intro row hrow
    cases (Table.mem_of_insert ht).mp hrow with
    | inl hold =>
      refine .inl ⟨hold, fun heq => hany ?_⟩
      exact List.any_eq_true.mpr ⟨row, hold, by simp [heq]⟩
    | inr hnew => exact .inr ⟨c.createdAt, hnew⟩

theorem upsertCredentials_stored {db db' : DB} {c : StarbucksCredentials}
    (h : db.upsertCredentials c = some db') : ∃ t, { c with createdAt := t } ∈ db'.starbucksCredentials := by
  unfold DB.upsertCredentials at h
  split_ifs at h with hu hany
  · cases h
    obtain ⟨x, hx, hid⟩ := List.any_eq_true.mp hany
    refine ⟨x.createdAt, ?_⟩
    simp only [Table.mem_update]
    exact ⟨x, hx, by rw [if_pos hid, beq_iff_eq.mp hid]⟩
  · obtain ⟨t, ht, rfl⟩ := Option.map_eq_some_iff.mp h
    exact ⟨c.createdAt, (Table.mem_of_insert ht).mpr (.inr rfl)⟩

theorem upsert_coherent {db : DB} {userID : Uuid} {input : CredentialsInput} {plainDEK : Bytes}
    {row : StarbucksCredentials}
    (hseal : sealCredentials env.crypto env.json plainDEK o.nonces userID input (unix w.now) = some row)
    (h : w.db.upsertCredentials row = some db)
    (hknows : w.db.hasUser userID = true → w.db.HoldsKey env userID plainDEK)
    (hw : w.Coherent env earlier) :
    World.Coherent env earlier
        { w with db := db, trace := { w.trace with saved := (userID, input) :: w.trace.saved } } ∧
      KeepsKeys env w
        { w with db := db, trace := { w.trace with saved := (userID, input) :: w.trace.saved } } := by
  have huser := sealCredentials_userID hseal
  obtain ⟨hu, hdeks, husers, hrows⟩ := mem_upsertCredentials h
  rw [huser] at hu hrows
  have hhas : ∀ uid, db.hasUser uid = w.db.hasUser uid := by
    intro uid
    rw [DB.hasUser, husers, DB.hasUser]
  have hkeys : ∀ uid k, db.HoldsKey env uid k ↔ w.db.HoldsKey env uid k := by
    intro uid k
    rw [DB.HoldsKey, hdeks, DB.HoldsKey]
  refine ⟨⟨⟨?_, ?_⟩, ?_⟩, ⟨fun _ hx => hx, ?_, ?_⟩⟩
  · intro dek hdek
    rw [hhas]
    rw [hdeks] at hdek
    exact hw.db.deks dek hdek
  · intro r hr
    rw [List.cons_append]
    cases hrows r hr with
    | inl hold =>
      obtain ⟨hmem, hne⟩ := hold
      obtain ⟨k, input', hk, hsaved, hopen⟩ := hw.db.rows r hmem
      refine ⟨k, input', (hkeys _ _).mpr hk, ?_, hopen⟩
      rw [lastSaved_cons, if_neg fun heq => hne heq.symm]
      exact hsaved
    | inr hnew =>
      obtain ⟨t, rfl⟩ := hnew
      have hopen := openCredentials_sealCredentials hseal userID t
      refine ⟨plainDEK, input, (hkeys _ _).mpr (hknows hu), ?_, hopen⟩
      rw [lastSaved_cons, if_pos rfl]
  · intro uid hu'
    exact hw.drawn uid ((hhas uid).symm.trans hu')
  · intro uid _ hu'
    exact (hhas uid).symm.trans hu'
  · intro uid k hk _
    exact (hkeys uid k).mpr hk

theorem writeCredentials_coherent {userID : Uuid} {pc pc' : WriteCredentialsPc}
    {jobs : List ScrapeJob} (h : writeCredentials env o w userID pc = some (w', pc', jobs))
    (hw : w.Coherent env earlier) (ht : (Task.writeCredentials userID pc).Knows env w) :
    w'.Coherent env earlier ∧ KeepsKeys env w w' ∧
      (Task.writeCredentials userID pc').Knows env w' := by
  cases writeCredentials_cases h with
  | credentialLimited | credentialLimit | scrapeLimited | badBody | scrapeLimit =>
    exact ⟨⟨hw.db, hw.drawn⟩, .of_eq rfl rfl, trivial⟩
  | @selectDEK input dek plainDEK _ hdek hdec =>
    obtain ⟨hmem, hid⟩ := DB.mem_of_userDEK hdek
    have hkey : w.db.HoldsKey env userID plainDEK := ⟨dek, hmem, hid, hdec⟩
    exact ⟨hw, .of_eq rfl rfl, hw.drawn userID (hw.db.hasUser hkey), fun _ => hkey⟩
  | @insertDEK input plainDEK encDEK db _ hgen hexec =>
    have hdec := env.crypto.decryptDEK_of_generateDEK hgen userID (unix w.now)
    obtain ⟨hcoh, hkeeps, hdrawn, hkey⟩ := insertDEK_coherent (exec_eq_some hexec) hdec hw
    exact ⟨hcoh, hkeeps, hdrawn, fun _ => hkey⟩
  | upsert _ hseal hexec =>
    obtain ⟨hcoh, hkeeps⟩ := upsert_coherent hseal (exec_eq_some hexec) ht.2 hw
    exact ⟨hcoh, hkeeps, trivial⟩
  | @schedule now db hexec =>
    have hsame : SameKeys w { w with db := db } :=
      Apart.sameKeys ⟨rfl, DB.upsertSchedule_vault (exec_eq_some hexec), rfl⟩ fun _ hx => hx
    exact ⟨hsame.coherent hw, hsame.keepsKeys, trivial⟩
  | _ => exact ⟨hw, .of_eq rfl rfl, trivial⟩

theorem scrapeGetCredentials_knows {key : String} {pc pc' : GetCredentialsPc}
    (h : scrapeGetCredentials env o w key pc = some (w', pc')) (hw : w.Coherent env earlier) :
    (Task.getCredentials key pc').Knows env w' := by
  cases scrapeGetCredentials_cases h with
  | @loadDEK userID plainDEK hload =>
    obtain ⟨dek, hdek, hdec⟩ := Option.bind_eq_some_iff.mp hload
    obtain ⟨hmem, hid⟩ := DB.mem_of_userDEK (select_eq_some hdek)
    have hkey : w.db.HoldsKey env userID plainDEK := ⟨dek, hmem, hid, hdec⟩
    exact ⟨hw.drawn userID (hw.db.hasUser hkey), fun _ => hkey⟩
  | _ => trivial

theorem runTask_coherent {t t' : Task} {jobs : List ScrapeJob}
    (h : runTask env o w t = some (w', t', jobs)) (hw : w.Coherent env earlier)
    (ht : t.Knows env w) :
    w'.Coherent env earlier ∧ KeepsKeys env w w' ∧ t'.Knows env w' := by
  have hdrawn := (runTask_effect h).frame.drawn
  have hsame : SameKeys w w' → t'.Knows env w' →
      w'.Coherent env earlier ∧ KeepsKeys env w w' ∧ t'.Knows env w' :=
    fun hs ht' => ⟨hs.coherent hw, hs.keepsKeys, ht'⟩
  cases runTask_cases h with
  | getCredentials hr =>
    exact hsame ((scrapeGetCredentials_apart hr).sameKeys hdrawn) (scrapeGetCredentials_knows hr hw)
  | submitShifts hr => exact hsame ((scrapeSubmitShifts_apart hr).sameKeys hdrawn) trivial
  | submitFailure hr => exact hsame ((scrapeSubmitFailure_apart hr).sameKeys hdrawn) trivial
  | scrape hr => exact hsame ((scrapeForUser_apart hr).sameKeys hdrawn) trivial
  | requestPin hr => exact hsame (requestPin_sameKeys hr) trivial
  | verifyPin hr => exact hsame (verifyPin_sameKeys hr) trivial
  | logout => exact hsame (logout_apart.sameKeys hdrawn) trivial
  | refused err => exact hsame (Apart.sameKeys (.refl w) hdrawn) trivial
  | begun hb =>
    refine hsame (Apart.sameKeys (.refl w) hdrawn) ?_
    cases AuthedRequest.begin_cases hb <;> trivial
  | writeCredentials hr => exact writeCredentials_coherent hr hw ht
  | deleteAccount =>
    obtain ⟨hcoh, hkeeps⟩ := deleteAccount_coherent (o := o) hw
    exact ⟨hcoh, hkeeps, trivial⟩
  | updateTimezone => exact hsame updateTimezone_sameKeys trivial

end Handlers

namespace Server
variable {env : Env} {s s' : Server} {a : Action} {db : DB} {now : Int}
  {earlier : List (Uuid × CredentialsInput)}

structure StoreCoherent (env : Env) (earlier : List (Uuid × CredentialsInput)) (s : Server) :
    Prop where
  world : s.toWorld.Coherent env earlier
  knows : ∀ t ∈ s.tasks, t.Knows env s.toWorld

theorem storeCoherent_boot (hdb : db.Coherent env earlier) :
    (boot db now).StoreCoherent env earlier := by
  refine ⟨⟨hdb, ?_⟩, ?_⟩
  · intro uid hu
    obtain ⟨u, hmem, rfl⟩ := DB.hasUser_iff.mp hu
    have hid : u.id ∈ db.users.rows.map User.id := List.mem_map_of_mem hmem
    simp only [boot, World.boot, DB.drawn, List.append_assoc]
    exact List.mem_append_left _ hid
  · intro t ht
    cases ht

theorem knows_scrapes {w : World} (jobs : List ScrapeJob) :
    ∀ t ∈ jobs.map ScrapeJob.task, t.Knows env w :=
  List.forall_mem_map.mpr fun _ _ => trivial

theorem storeCoherent_step (hs : s.StoreCoherent env earlier) (h : s.step env a = some s') :
    s'.StoreCoherent env earlier := by
  cases a with
  | run i o =>
    obtain ⟨t, w, t', jobs, ht, hrun, rfl⟩ := step_run h
    obtain ⟨hw, hkeeps, ht'⟩ :=
      runTask_coherent hrun hs.world (hs.knows t (mem_of_getElem?_pool ht))
    exact ⟨hw, forall_pooled (fun u hu => (hs.knows u hu).mono hkeeps) ht' (knows_scrapes jobs)⟩
  | schedule o =>
    obtain ⟨w, sch, jobs, hrun, rfl⟩ := step_schedule h
    have hsame : SameKeys s.toWorld w :=
      (runScheduler_apart hrun).sameKeys (runScheduler_effect hrun).frame.drawn
    refine ⟨hsame.coherent hs.world, ?_⟩
    intro t ht
    cases List.mem_append.mp ht with
    | inl hold => exact (hs.knows t hold).mono hsame.keepsKeys
    | inr hnew => exact knows_scrapes jobs t hnew
  | arrive r =>
    cases h
    refine ⟨⟨hs.world.db, hs.world.drawn⟩, ?_⟩
    intro t ht
    cases List.mem_append.mp ht with
    | inl hold => exact hs.knows t hold
    | inr hnew =>
      rw [List.mem_singleton.mp hnew]
      cases r <;> trivial
  | _ =>
    cases h
    exact ⟨⟨hs.world.db, hs.world.drawn⟩, hs.knows⟩

theorem storeCoherent_of_reaches (hdb : db.Coherent env earlier)
    (h : Reaches (step env) anyStep (boot db now) s) : s.StoreCoherent env earlier :=
  h.invariant (storeCoherent_boot hdb) fun _ _ _ _ hs ha => storeCoherent_step hs ha

theorem coherent_of_no_keys (hdeks : db.userDEKs.rows = [])
    (hcreds : db.starbucksCredentials.rows = []) : db.Coherent env [] := by
  refine ⟨?_, ?_⟩
  · intro dek hdek
    rw [Table.mem_def, hdeks] at hdek
    cases hdek
  · intro row hrow
    rw [Table.mem_def, hcreds] at hrow
    cases hrow

theorem coherent_of_reaches (hdb : db.Coherent env earlier)
    (h : Reaches (step env) anyStep (boot db now) s) :
    s.db.Coherent env (s.trace.saved ++ earlier) :=
  (storeCoherent_of_reaches hdb h).world.db

/-- What LoadCredentials meets in a state: every credentials row has a DEK row, and a
request whose SELECTs succeed and find both rows gets the credentials of the newest
committed save of the user. -/
structure LoadsLastSaved (env : Env) (earlier : List (Uuid × CredentialsInput)) (s : Server) :
    Prop where
  accompanied : ∀ row ∈ s.db.starbucksCredentials, ∃ dek ∈ s.db.userDEKs, dek.userID = row.userID
  loadsDEK : ∀ o key uid dek, o.sqlFails = false → s.db.userDEK uid = some dek →
    ∃ plainDEK, scrapeGetCredentials env o s.toWorld key (.loadDEK uid) =
      some (s.toWorld, .loadRow uid plainDEK)
  loadsRow : ∀ o key uid plainDEK row, o.sqlFails = false →
    .getCredentials key (.loadRow uid plainDEK) ∈ s.tasks → s.db.credentials uid = some row →
    ∃ input, lastSaved (s.trace.saved ++ earlier) uid = some input ∧
      scrapeGetCredentials env o s.toWorld key (.loadRow uid plainDEK) =
        some (s.toWorld, .markFetched input)

theorem loads_last_saved (hdb : db.Coherent env earlier)
    (h : Reaches (step env) anyStep (boot db now) s) : s.LoadsLastSaved env earlier := by
  have hs := storeCoherent_of_reaches hdb h
  refine ⟨?_, ?_, ?_⟩
  · intro row hrow
    obtain ⟨_, _, ⟨dek, hdek, hid, _⟩, _⟩ := (coherent_of_reaches hdb h).rows row hrow
    exact ⟨dek, hdek, hid⟩
  · intro o key uid dek hsql hdek
    obtain ⟨hmem, _⟩ := DB.mem_of_userDEK hdek
    obtain ⟨plainDEK, hdec⟩ := Option.isSome_iff_exists.mp (hs.world.db.deks dek hmem).2
    exact ⟨plainDEK, by simp [scrapeGetCredentials, select_executed hsql, hdek, hdec]⟩
  · intro o key uid plainDEK row hsql ht hrow
    obtain ⟨hmem, rfl⟩ := DB.mem_of_credentials hrow
    obtain ⟨k, input, hk, hsaved, hopen⟩ := hs.world.db.rows row hmem
    have hknown : s.db.HoldsKey env row.userID plainDEK :=
      (hs.knows _ ht).2 (hs.world.db.hasUser hk)
    rw [hk.unique hknown] at hopen
    exact ⟨input, hsaved, by simp [scrapeGetCredentials, select_executed hsql, hrow, hopen]⟩

theorem loads_last_saved_first :
    LoadsLastSaved sampleEnv [] (after (step sampleEnv) anyStep (boot sessionDB 0)
      (firstSave ++ launch 1 "log1" "key1" "c1" ++
        [.arrive (.getCredentials "key1"), .run 2 {}, .run 2 {}])) :=
  loads_last_saved (coherent_of_no_keys rfl rfl) (reaches_after (by decide +kernel))

end Server
end ScheduleSync

import ScheduleSync.CredentialStore
import ScheduleSync.Hex

/-! The master key comes as text, and every process reads it again. What one process sealed
the next one opens, however often the service is stopped and started, as long as the key is
the same up to the case of its digits. -/
namespace ScheduleSync

namespace EnvelopeCrypto
variable {gcm : Gcm} {mekHex mekHex' : String} {e e' : EnvelopeCrypto}

/-- crypto.New, with AES-GCM given. -/
def new (gcm : Gcm) (mekHex : String) : Except String EnvelopeCrypto :=
  match hexDecode mekHex.toList with
  | none => .error ("decode MEK: " ++ hexDecodeError mekHex.toList)
  | some mek =>
    if h : mek.length = 32 then .ok ⟨gcm, mek, h⟩
    else .error ("MEK must be 32 bytes (64 hex chars), got " ++ toString mek.length ++ " bytes")

example (gcm : Gcm) : new gcm "0g" = .error "decode MEK: encoding/hex: invalid byte: U+0067 'g'" := rfl

def generateMEK (key : FreshKey) : String := String.ofList (hexEncode key.1)

theorem new_eq_ok : new gcm mekHex = .ok e ↔ e.gcm = gcm ∧ mekHex.toList.map Char.toLower = hexEncode e.mek := by
  rw [← hexDecode_eq_some]
  unfold new
  cases hexDecode mekHex.toList with
  | none => simp
  | some mek =>
    by_cases h : mek.length = 32
    · cases e with
      | mk gcm' mek' hmek' => simp [h, eq_comm]
    · simp only [dif_neg h, reduceCtorEq, Option.some.injEq, false_iff, not_and]
      rintro _ rfl
      exact h e.mek_length

theorem new_generateMEK (gcm : Gcm) (key : FreshKey) : new gcm (generateMEK key) = .ok ⟨gcm, key.1, key.2⟩ := by
  rw [new_eq_ok, generateMEK, String.toList_ofList, toLower_hexEncode]
  exact ⟨rfl, rfl⟩

theorem new_same (h : new gcm mekHex = .ok e) (h' : new gcm mekHex' = .ok e')
    (hsame : mekHex.toList.map Char.toLower = mekHex'.toList.map Char.toLower) : e = e' := by
  obtain ⟨hgcm, htext⟩ := new_eq_ok.mp h
  obtain ⟨hgcm', htext'⟩ := new_eq_ok.mp h'
  have hmek : e.mek = e'.mek := by
    refine Option.some.inj ?_
    rw [← hexDecode_hexEncode, ← htext, hsame, htext', hexDecode_hexEncode]
  cases e
  cases e'
  cases hgcm
  cases hgcm'
  cases hmek
  rfl

end EnvelopeCrypto

namespace Server

/-- The environment of a process that was started with the key `mek`. -/
structure StartedWith (gcm : Gcm) (json : QuestionsJSON) (mek : List Char) (env : Env) : Prop where
  json : env.json = json
  crypto : ∃ mekHex, mekHex.toList.map Char.toLower = mek ∧ EnvelopeCrypto.new gcm mekHex = .ok env.crypto

/-- A database, with what was saved to it newest first, that one process after another has
worked on. Each starts from what the last one left, and stops anywhere. -/
inductive Inherited (gcm : Gcm) (json : QuestionsJSON) (mek : List Char) :
    DB → List (Uuid × CredentialsInput) → Prop
  | first {db} (hdeks : db.userDEKs.rows = []) (hcreds : db.starbucksCredentials.rows = []) :
      Inherited gcm json mek db []
  | next {db earlier env now s} (h : Inherited gcm json mek db earlier)
      (henv : StartedWith gcm json mek env) (hrun : Reaches (step env) anyStep (boot db now) s) :
      Inherited gcm json mek s.db (s.trace.saved ++ earlier)

variable {gcm : Gcm} {json : QuestionsJSON} {mek : List Char} {env env' : Env} {db : DB}
  {earlier : List (Uuid × CredentialsInput)}

theorem StartedWith.same (h : StartedWith gcm json mek env) (h' : StartedWith gcm json mek env') :
    env.crypto = env'.crypto ∧ env.json = env'.json := by
  obtain ⟨mekHex, htext, hnew⟩ := h.crypto
  obtain ⟨mekHex', htext', hnew'⟩ := h'.crypto
  exact ⟨EnvelopeCrypto.new_same hnew hnew' (htext.trans htext'.symm), h.json.trans h'.json.symm⟩

theorem coherent_congr {saved : List (Uuid × CredentialsInput)} (hcrypto : env.crypto = env'.crypto)
    (hjson : env.json = env'.json) (h : db.Coherent env saved) : db.Coherent env' saved where
  deks dek hdek := by
    rw [← hcrypto]
    exact h.deks dek hdek
  rows row hrow := by
    obtain ⟨plainDEK, input, ⟨dek, hdek, huser, hdec⟩, hsaved, hopen⟩ := h.rows row hrow
    rw [hcrypto] at hdec
    rw [hcrypto, hjson] at hopen
    exact ⟨plainDEK, input, ⟨dek, hdek, huser, hdec⟩, hsaved, hopen⟩

theorem coherent_of_inherited (h : Inherited gcm json mek db earlier)
    (henv : StartedWith gcm json mek env) : db.Coherent env earlier := by
  induction h with
  | first hdeks hcreds => exact coherent_of_no_keys hdeks hcreds
  | next _ henv' hrun ih =>
    obtain ⟨hcrypto, hjson⟩ := henv'.same henv
    have hstart := coherent_congr hcrypto.symm hjson.symm ih
    exact coherent_congr hcrypto hjson (coherent_of_reaches hstart hrun)

/-- However many processes have run and stopped, the next one loads for each user what the
user saved last. -/
theorem credentials_survive_restarts (h : Inherited gcm json mek db earlier)
    (henv : StartedWith gcm json mek env) {uid : Uuid} {row : StarbucksCredentials}
    (hrow : db.credentials uid = some row) :
    ∃ dek plainDEK input, db.userDEK uid = some dek ∧ env.crypto.decryptDEK dek = some plainDEK ∧
      openCredentials env.crypto env.json plainDEK row = .ok input ∧ lastSaved earlier uid = some input := by
  have hdb := coherent_of_inherited h henv
  obtain ⟨hmem, rfl⟩ := DB.mem_of_credentials hrow
  obtain ⟨plainDEK, input, ⟨dek, hdek, huser, hdec⟩, hsaved, hopen⟩ := hdb.rows row hmem
  have hfound : db.userDEK row.userID = some dek := by
    refine Table.queryRow_eq_some hdek (by simp [huser]) fun a b ha hb => ?_
    exact (beq_iff_eq.mp ha).trans (beq_iff_eq.mp hb).symm
  exact ⟨dek, plainDEK, input, hfound, hdec, hopen, hsaved⟩

def afterFirstSave : Server := after (step sampleEnv) anyStep (boot sessionDB 0) firstSave

theorem credentials_survive_restart :
    ∃ row dek plainDEK input, afterFirstSave.db.credentials "u1" = some row ∧
      afterFirstSave.db.userDEK "u1" = some dek ∧ sampleEnv.crypto.decryptDEK dek = some plainDEK ∧
      openCredentials sampleEnv.crypto sampleEnv.json plainDEK row = .ok input ∧
      lastSaved afterFirstSave.trace.saved "u1" = some input := by
  have henv : StartedWith .tagging .packed (hexEncode (List.replicate 32 7)) sampleEnv := by
    refine ⟨rfl, EnvelopeCrypto.generateMEK ⟨List.replicate 32 7, rfl⟩, ?_, EnvelopeCrypto.new_generateMEK _ _⟩
    rw [EnvelopeCrypto.generateMEK, String.toList_ofList, toLower_hexEncode]
  have hrun : Reaches (step sampleEnv) anyStep (boot sessionDB 0) afterFirstSave :=
    reaches_after (by decide +kernel)
  obtain ⟨row, hrow⟩ : ∃ row, afterFirstSave.db.credentials "u1" = some row :=
    Option.isSome_iff_exists.mp (by decide +kernel)
  obtain ⟨dek, plainDEK, input, hdek, hdec, hopen, hsaved⟩ :=
    credentials_survive_restarts (.next (.first rfl rfl) henv hrun) henv hrow
  rw [List.append_nil] at hsaved
  exact ⟨row, dek, plainDEK, input, hrow, hdek, hdec, hopen, hsaved⟩

end Server
end ScheduleSync

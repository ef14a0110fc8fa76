import ScheduleSync.Schema

/-! Envelope encryption: each user's data key (DEK) is sealed with the master
key (MEK), the three credential fields with the DEK. AES-GCM and encoding/json
are parameters; the only thing known of them is that they invert themselves. -/
namespace ScheduleSync

structure SecurityQuestion where
  question : String
  answer : String
deriving DecidableEq

/-- Body of a credentials request, and what the scraper is handed back. -/
structure CredentialsInput where
  username : String
  password : String
  securityQuestions : List SecurityQuestion
deriving DecidableEq

/-- gcm.Seal and gcm.Open under a key, as in crypto/cipher. -/
structure Gcm where
  sealBytes : (key nonce plaintext : Bytes) → Bytes
  openBytes : (key nonce ciphertext : Bytes) → Option Bytes
  open_seal : ∀ key nonce p, openBytes key nonce (sealBytes key nonce p) = some p

/-- The plaintext with key and nonce for a tag: unsafe, but it inverts itself and
opens under no other key. -/
def Gcm.tagging : Gcm where
  sealBytes key nonce p := p ++ (key ++ nonce)
  openBytes key nonce c :=
    if (key ++ nonce).isSuffixOf c then some (c.take (c.length - (key ++ nonce).length)) else none
  open_seal key nonce p := by
    rw [if_pos (List.isSuffixOf_iff_suffix.mpr (List.suffix_append _ _))]
    simp

/-- `[]byte(s)` and `string(b)`. -/
def utf8Bytes (s : String) : Bytes := s.toUTF8.data.toList
def utf8String (b : Bytes) : String := (String.fromUTF8? ⟨b.toArray⟩).getD ""

theorem utf8String_utf8Bytes (s : String) : utf8String (utf8Bytes s) = s := by
  have hvalid : s.toUTF8.IsValidUTF8 := s.isValidUTF8
  have hbytes : (⟨s.toUTF8.data.toList.toArray⟩ : ByteArray) = s.toUTF8 := rfl
  unfold utf8String utf8Bytes
  rw [hbytes, String.fromUTF8?, dif_pos hvalid]
  rfl

/-- json.Marshal and json.Unmarshal at []SecurityQuestion. -/
structure QuestionsJSON where
  marshal : List SecurityQuestion → Bytes
  unmarshal : Bytes → Option (List SecurityQuestion)
  unmarshal_marshal : ∀ qs, unmarshal (marshal qs) = some qs

/-- Byte strings one after the other: 1 before each byte, 0 after each string. -/
def packBytes : List Bytes → Bytes
  | [] => []
  | b :: bs => b.flatMap (fun x => [1, x]) ++ 0 :: packBytes bs

def unpackBytes : Bytes → List Bytes
  | 1 :: x :: rest =>
    match unpackBytes rest with
    | [] => [[x]]
    | b :: bs => (x :: b) :: bs
  | 0 :: rest => [] :: unpackBytes rest
  | _ => []

theorem unpackBytes_packBytes (bs : List Bytes) : unpackBytes (packBytes bs) = bs := by
  induction bs with
  | nil => rfl
  | cons b bs ih =>
    have happend : ∀ b : Bytes,
        unpackBytes (b.flatMap (fun x => [1, x]) ++ 0 :: packBytes bs) = b :: bs := by
      intro b
      induction b with
      | nil => simp [unpackBytes, ih]
      | cons x b ihb => simp [unpackBytes, ihb]
    exact happend b

def unpackQuestions : List Bytes → List SecurityQuestion
  | q :: a :: rest => ⟨utf8String q, utf8String a⟩ :: unpackQuestions rest
  | _ => []

theorem unpackQuestions_flatMap (qs : List SecurityQuestion) :
    unpackQuestions (qs.flatMap fun q => [utf8Bytes q.question, utf8Bytes q.answer]) = qs := by
  induction qs with
  | nil => rfl
  | cons q qs ih => simp [unpackQuestions, utf8String_utf8Bytes, ih]

def QuestionsJSON.packed : QuestionsJSON where
  marshal qs := packBytes (qs.flatMap fun q => [utf8Bytes q.question, utf8Bytes q.answer])
  unmarshal b := some (unpackQuestions (unpackBytes b))
  unmarshal_marshal qs := by rw [unpackBytes_packBytes, unpackQuestions_flatMap]

/-- crypto.EnvelopeCrypto; New refuses a master key that is not 32 bytes. -/
structure EnvelopeCrypto where
  gcm : Gcm
  mek : Bytes
  mek_length : mek.length = 32

abbrev FreshKey := { bytes : Bytes // bytes.length = 32 }

def FreshKey.zero : FreshKey := ⟨List.replicate 32 0, rfl⟩

namespace EnvelopeCrypto
variable (e : EnvelopeCrypto)

/-- aes.NewCipher accepts 16, 24 and 32 byte keys. -/
def validKey (key : Bytes) : Bool := key.length == 16 || key.length == 24 || key.length == 32

def sealWith (key nonce plaintext : Bytes) : Option Bytes :=
  if validKey key then some (e.gcm.sealBytes key nonce plaintext) else none

def openWith (key nonce ciphertext : Bytes) : Option Bytes :=
  if validKey key then e.gcm.openBytes key nonce ciphertext else none

/-- GenerateDEK, given the random key and nonce: the plain key and its sealed form. -/
def generateDEK (key : FreshKey) (nonce : Bytes) : Option (Bytes × Bytes) :=
  (e.sealWith e.mek nonce key.1).map fun enc => (key.1, enc)

def decryptDEK (dek : UserDEK) : Option Bytes := e.openWith e.mek dek.dekNonce dek.encryptedDEK

theorem open_of_seal {key nonce p c : Bytes} (h : e.sealWith key nonce p = some c) :
    e.openWith key nonce c = some p := by
  unfold sealWith at h
  split at h
  · rename_i hk
    cases h
    rw [openWith, if_pos hk, e.gcm.open_seal]
  · cases h

theorem decryptDEK_of_generateDEK {key : FreshKey} {nonce plainDEK encDEK : Bytes}
    (h : e.generateDEK key nonce = some (plainDEK, encDEK)) (userID : Uuid) (now : Int) :
    e.decryptDEK ⟨userID, encDEK, nonce, now⟩ = some plainDEK := by
  obtain ⟨enc, henc, heq⟩ := Option.map_eq_some_iff.mp h
  cases heq
  exact e.open_of_seal henc

end EnvelopeCrypto

/-- The three Encrypt calls and the row writeCredentials stores. -/
def sealCredentials (e : EnvelopeCrypto) (json : QuestionsJSON) (plainDEK : Bytes)
    (nonces : Bytes × Bytes × Bytes) (userID : Uuid) (input : CredentialsInput) (now : Int) :
    Option StarbucksCredentials := do
  let encUsername ← e.sealWith plainDEK nonces.1 (utf8Bytes input.username)
  let encPassword ← e.sealWith plainDEK nonces.2.1 (utf8Bytes input.password)
  let encSQ ← e.sealWith plainDEK nonces.2.2 (json.marshal input.securityQuestions)
  some {
    userID := userID
    encryptedUsername := encUsername, usernameNonce := nonces.1
    encryptedPassword := encPassword, passwordNonce := nonces.2.1
    encryptedSecurityQuestions := encSQ, securityQuestionsNonce := nonces.2.2
    createdAt := now, updatedAt := now }

/-- Why LoadCredentials fails once both rows are read. -/
inductive LoadError where
  | decryptUsername | decryptPassword | decryptSecurityQuestions | parseSecurityQuestions
deriving DecidableEq

/-- The second half of LoadCredentials: three Decrypt calls and json.Unmarshal. -/
def openCredentials (e : EnvelopeCrypto) (json : QuestionsJSON) (plainDEK : Bytes)
    (row : StarbucksCredentials) : Except LoadError CredentialsInput :=
  match e.openWith plainDEK row.usernameNonce row.encryptedUsername with
  | none => .error .decryptUsername
  | some username =>
    match e.openWith plainDEK row.passwordNonce row.encryptedPassword with
    | none => .error .decryptPassword
    | some password =>
      match e.openWith plainDEK row.securityQuestionsNonce row.encryptedSecurityQuestions with
      | none => .error .decryptSecurityQuestions
      | some sqRaw =>
        match json.unmarshal sqRaw with
        | none => .error .parseSecurityQuestions
        | some sqs => .ok ⟨utf8String username, utf8String password, sqs⟩

theorem sealCredentials_userID {e : EnvelopeCrypto} {json : QuestionsJSON} {plainDEK : Bytes}
    {nonces : Bytes × Bytes × Bytes} {userID : Uuid} {input : CredentialsInput} {now : Int}
    {row : StarbucksCredentials}
    (h : sealCredentials e json plainDEK nonces userID input now = some row) : row.userID = userID := by
  simp only [sealCredentials, Option.bind_eq_bind, Option.bind_eq_some_iff, Option.some.injEq] at h
  obtain ⟨_, _, _, _, _, _, rfl⟩ := h
  rfl

theorem openCredentials_sealCredentials {e : EnvelopeCrypto} {json : QuestionsJSON} {plainDEK : Bytes}
    {nonces : Bytes × Bytes × Bytes} {userID : Uuid} {input : CredentialsInput} {now : Int}
    {row : StarbucksCredentials}
    (h : sealCredentials e json plainDEK nonces userID input now = some row) (id' : Uuid) (t : Int) :
    openCredentials e json plainDEK { row with userID := id', createdAt := t } = .ok input := by
  simp only [sealCredentials, Option.bind_eq_bind, Option.bind_eq_some_iff, Option.some.injEq] at h
  obtain ⟨u, hu, p, hp, q, hq, rfl⟩ := h
  simp [openCredentials, e.open_of_seal hu, e.open_of_seal hp, e.open_of_seal hq,
    utf8String_utf8Bytes, json.unmarshal_marshal]

end ScheduleSync

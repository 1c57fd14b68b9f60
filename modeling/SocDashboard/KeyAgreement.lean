/-
# One key string, two keys

Both sides are configured with the same `DB_ENCRYPTION_KEY`. crypto.py hashes
the string into its key; fernet.go decodes the string as the key. A row that
the Go service stores is read back by the Flask side exactly when the two
agree: the string is empty, or it decodes to its own digest. `decrypt_field`
answers a token it cannot decrypt with the token, so nothing raises.

Key definitions: `ReadsBack`.
Key theorems: `readsBack_of_same_key`, `not_readsBack_of_other_key`,
`keyAgreement_iff`, `testKey_disagrees`.
-/
import SocDashboard.GoIngest

namespace SocDashboard

/-- What the Flask side reads in the encrypted columns of a row is what the
request said. -/
structure ReadsBack (F : FernetScheme) (fernet : Option FernetKey) (req : AlertRequest) (row : Alert) :
    Prop where
  title : decryptStr F fernet row.title = req.title
  sourceIp : decryptField F fernet row.sourceIp = nullableStr req.sourceIp
  description : decryptField F fernet row.description = nullableStr req.description

/-- Under the encrypting key a column reads as the field was. -/
theorem decryptField_nullableStr {F : FernetScheme} {fk : FernetKeys} {err : Option String} {n : Nonce}
    {s t : String} (h : fk.encryptField F err n s = .ok t) :
    decryptField F fk (nullableStr t) = nullableStr s := by
  rw [encryptField_ok h, nullableStr_encrypt, decryptField_encryptStr]

section Agreement

variable {svc : Service} {a : GoAmbient} {req : AlertRequest} {v : AlertValues}

theorem readsBack_of_same_key (h : goInserts svc a req = some v) (db : Db) (now : Time) :
    ReadsBack svc.scheme svc.fk req (db.newAlert now v) := by
  obtain ⟨hv, -, s, t, ip, d, -, hval, -, rfl⟩ := goInserts_some h
  obtain ⟨ht, hip, hd⟩ := goAlertValues_ok hval
  refine ⟨?_, decryptField_nullableStr hip, decryptField_nullableStr hd⟩
  change decryptStr svc.scheme svc.fk t = req.title
  rw [encryptField_ok ht, if_neg (validate_title hv), decryptStr_encryptStr]

/-- Under another key the title comes back as its token. -/
theorem not_readsBack_of_other_key {k k' : FernetKey} (hk : svc.fk = some k) (hne : k ≠ k')
    (h : goInserts svc a req = some v) (db : Db) (now : Time) :
    ¬ReadsBack svc.scheme (some k') req (db.newAlert now v) := by
  obtain ⟨hv, -, s, t, ip, d, -, hval, -, rfl⟩ := goInserts_some h
  obtain ⟨ht, -, -⟩ := goAlertValues_ok hval
  rintro ⟨htitle, -, -⟩
  change decryptStr svc.scheme (some k') t = req.title at htitle
  rw [encryptField_ok ht, if_neg (validate_title hv), hk, encryptStr, decryptStr_other_key hne] at htitle
  exact encrypt_ne k _ _ htitle

/-- **Exactly when the two key derivations agree.** For every key string the Go
service starts with and every request it accepts, the Flask side reads the
stored row back exactly when the string is empty or decodes to its SHA-256. -/
theorem keyAgreement_iff (sha256 : ByteArray → FernetKey) (decodeKey : String → Option FernetKey)
    {key : String} (hfk : newFernetKeys decodeKey key = some svc.fk) {w w' : World} {resp : AlertResponse}
    (h : goIngest svc a req w = (.ok resp, w')) :
    ∃ row, w'.db.alerts = w.db.alerts ++ [row] ∧
      (ReadsBack svc.scheme (getFernet sha256 (some key)) req row ↔
        key = "" ∨ decodeKey key = some (sha256 key.toUTF8)) := by
  cases hi : goInserts svc a req with
  | none =>
    obtain ⟨err, he⟩ := goIngest_of_not_inserts hi w
    simp [he] at h
  | some v =>
    obtain ⟨w'', hok, hdb⟩ := goIngest_of_inserts hi w
    obtain ⟨-, rfl⟩ := Prod.mk.inj (hok.symm.trans h)
    refine ⟨w.db.newAlert a.now v, by rw [hdb]; rfl, ?_⟩
    have hsame := readsBack_of_same_key hi w.db a.now
    unfold newFernetKeys at hfk
    split_ifs at hfk with hkey
    · have hnone : svc.fk = none := (Option.some.inj hfk).symm
      rw [hnone] at hsame
      simpa [hkey, getFernet] using hsame
    · obtain ⟨k, hdec, hk⟩ := Option.map_eq_some_iff.mp hfk
      simp only [hkey, getFernet, if_false, false_or, hdec, Option.some.injEq]
      constructor
      · intro hr
        by_contra hne
        exact not_readsBack_of_other_key hk.symm hne hi w.db a.now hr
      · rintro rfl
        rwa [← hk] at hsame

end Agreement

section TestKey

/-- The key of the round-trip test. -/
def testKey : String := "cE6nfJh6EBSuCCeGh_E0j_-4CpXKX-LDNrBpIgtTqEI="

/-- Its 32 bytes. -/
def testKeyBytes : FernetKey :=
  ⟨[112, 78, 167, 124, 152, 122, 16, 20, 174, 8, 39, 134, 135, 241, 52, 143, 255, 184, 10, 149, 202, 95,
    226, 195, 54, 176, 105, 34, 11, 83, 168, 66], by decide⟩

/-- The SHA-256 of its text. -/
def testKeyDigest : FernetKey :=
  ⟨[71, 24, 254, 131, 126, 126, 189, 75, 141, 97, 100, 24, 61, 77, 242, 227, 18, 222, 243, 60, 36, 29, 180,
    28, 205, 175, 75, 131, 92, 23, 175, 109], by decide⟩

def decodeTestKey (s : String) : Option FernetKey := if s = testKey then some testKeyBytes else none

def testService : Service := ⟨spelledScheme, some testKeyBytes, "", false, id⟩

def testRequest : AlertRequest := ⟨"Port scan", "Network", "high", "", "192.0.2.1", "", "", ""⟩

theorem keyAgreement_testKey :
    ∃ row, (goIngest testService goCalm testRequest emptyWorld).2.db.alerts =
        emptyWorld.db.alerts ++ [row] ∧
      (ReadsBack spelledScheme (getFernet (fun _ => testKeyDigest) (some testKey)) testRequest row ↔
        testKey = "" ∨ decodeTestKey testKey = some testKeyDigest) := by
  have hfk : newFernetKeys decodeTestKey testKey = some testService.fk := rfl
  have hok : goIngest testService goCalm testRequest emptyWorld =
    (.ok ⟨1, .high, .open_, 0⟩, (goIngest testService goCalm testRequest emptyWorld).2) := rfl
  exact keyAgreement_iff (fun _ => testKeyDigest) decodeTestKey hfk hok

/-- **The key of the round-trip test disagrees with its digest**: the Go service
starts with it and stores the row, and the Flask side reads a token as the
title. -/
theorem testKey_disagrees :
    newFernetKeys decodeTestKey testKey = some testService.fk ∧
      ∃ resp w' row, goIngest testService goCalm testRequest emptyWorld = (.ok resp, w') ∧
        w'.db.alerts = [row] ∧
        ¬ReadsBack spelledScheme (getFernet (fun _ => testKeyDigest) (some testKey)) testRequest row := by
  refine ⟨rfl, _, _, _, rfl, rfl, ?_⟩
  rintro ⟨h, -, -⟩
  revert h
  decide

end TestKey

end SocDashboard

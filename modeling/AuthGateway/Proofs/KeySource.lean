import AuthGateway.Proofs.FileTree
import AuthGateway.Proofs.KeyText
import AuthGateway.Settings.KeySource

/-!
Where the session key comes from, at one start and at the next. Whatever source is named in
the settings, a second search finds the key of the first, and a key that was made is in its
file. Files that stand are left alone but for one way to lose one: the path of the key file
goes up from a directory that is missing, so that nothing is found at its end before this
directory is made, and the file that is there all along is written over after it.
-/
namespace AuthGateway

namespace Files

def prepared (f : Files) (path : Path) : Files :=
  (f.makeDirectories path.parent).1

theorem growsTo_prepared (f : Files) (path : Path) : f.GrowsTo (f.prepared path) :=
  growsTo_makeDirectories f path.parent

/-- The path leads nowhere as yet, and to this place once the directories on it are made. -/
structure OpensOnto (f : Files) (path : Path) (place : Place) : Prop where
  missing : f.contains path = false
  made : (f.makeDirectories path.parent).2 = .ok ()
  leads : (f.prepared path).walk path = .ok place

end Files

namespace Settings.Session

open Files (IsPlace)

variable {s : Settings.Session} {files : Files} {fresh : Key} {path : Files.Path}
  {place : Files.Place} {name : String} {bytes : List UInt8} {found : KeyFound}

/-- The path of the key file leads to this place by way of a directory that is missing. -/
def Detours (s : Settings.Session) (files : Files) (place : Files.Place) : Prop :=
  s.secret = "" ∧ ∃ name, s.keyFile = some name ∧ files.OpensOnto (.ofText name) place

/-! What one search does, source by source. -/

theorem findKey_of_secret (h : s.secret ≠ "") (files : Files) (fresh : Key) :
    s.findKey files fresh = (files, readKey s.secret) :=
  if_pos h

theorem findKey_of_none (hsecret : s.secret = "") (hfile : s.keyFile = none) :
    s.findKey files fresh = (files, .ok ⟨fresh, true⟩) := by
  rw [findKey, if_neg (not_not_intro hsecret), hfile]

theorem findKey_of_keyFile (hsecret : s.secret = "") (hfile : s.keyFile = some name) :
    s.findKey files fresh = keyFromFile files (.ofText name) fresh := by
  rw [findKey, if_neg (not_not_intro hsecret), hfile]

theorem keyFromFile_of_contains (h : files.contains path = true) :
    keyFromFile files path fresh =
      (files, match files.text path with
        | .error e => .error (.inaccessible e)
        | .ok text => readKey text) :=
  if_pos h

theorem keyFromFile_of_missing (h : files.contains path = false) :
    keyFromFile files path fresh = writeKey files path fresh :=
  if_neg (by rw [h]; exact Bool.false_ne_true)

/-- A key that is read is not a new one. -/
theorem eq_of_readKey {text : String} (h : readKey text = .ok found) :
    found = ⟨found.key, false⟩ ∧ Key.ofText text = .ok found.key := by
  unfold readKey at h
  split at h
  · next key hkey =>
      cases h
      exact ⟨rfl, hkey⟩
  · cases h

/-- A key from a file that is there is the one that its text denotes. -/
theorem readKey_of_contains (hthere : files.contains path = true)
    (h : (keyFromFile files path fresh).2 = .ok found) :
    ∃ text, files.text path = .ok text ∧ readKey text = .ok found := by
  rw [keyFromFile_of_contains hthere] at h
  cases htext : files.text path with
  | error e =>
      rw [htext] at h
      cases h
  | ok text =>
      rw [htext] at h
      exact ⟨text, rfl, h⟩

theorem readKey_toText (key : Key) : readKey key.toText = .ok ⟨key, false⟩ := by
  rw [readKey, Key.ofText_eq_ok_iff.2 key.spells_toText]

/-- The directories on the way come first, and what is made of them stays. -/
theorem writeKey_eq (files : Files) (path : Files.Path) (fresh : Key) :
    writeKey files path fresh =
      match (files.makeDirectories path.parent).2 with
      | .error e => (files.prepared path, .error (.inaccessible e))
      | .ok () =>
        match (files.prepared path).write path (Utf8.encode fresh.toText) with
        | .error e => (files.prepared path, .error (.inaccessible e))
        | .ok written => (written, .ok ⟨fresh, true⟩) := by
  unfold writeKey Files.prepared
  obtain ⟨between, _ | _⟩ := files.makeDirectories path.parent
  · rfl
  · rfl

theorem writeKey_of_write {written : Files} (hmade : (files.makeDirectories path.parent).2 = .ok ())
    (hwrite : (files.prepared path).write path (Utf8.encode fresh.toText) = .ok written) :
    writeKey files path fresh = (written, .ok ⟨fresh, true⟩) := by
  rw [writeKey_eq, hmade, hwrite]

/-- The directories are made, and then the key is written, or else there is no key. -/
theorem writeKey_cases (files : Files) (path : Files.Path) (fresh : Key) :
    (∃ e, writeKey files path fresh = (files.prepared path, .error e)) ∨
      ∃ written, (files.makeDirectories path.parent).2 = .ok () ∧
        (files.prepared path).write path (Utf8.encode fresh.toText) = .ok written ∧
        writeKey files path fresh = (written, .ok ⟨fresh, true⟩) := by
  rw [writeKey_eq]
  split
  · exact .inl ⟨_, rfl⟩
  · next hmade =>
      split
      · exact .inl ⟨_, rfl⟩
      · next written hwrite => exact .inr ⟨written, hmade, hwrite, rfl⟩

/-- A secret comes first, then a key file, and then chance. -/
theorem findKey_cases (s : Settings.Session) (files : Files) (fresh : Key) :
    (s.secret ≠ "" ∧ s.findKey files fresh = (files, readKey s.secret)) ∨
    (s.secret = "" ∧ s.keyFile = none ∧ s.findKey files fresh = (files, .ok ⟨fresh, true⟩)) ∨
    ∃ name, s.secret = "" ∧ s.keyFile = some name ∧
      s.findKey files fresh = keyFromFile files (.ofText name) fresh := by
  by_cases hsecret : s.secret = ""
  · cases hfile : s.keyFile with
    | none => exact .inr (.inl ⟨hsecret, rfl, findKey_of_none hsecret hfile⟩)
    | some name => exact .inr (.inr ⟨name, hsecret, rfl, findKey_of_keyFile hsecret hfile⟩)
  · exact .inl ⟨hsecret, findKey_of_secret hsecret files fresh⟩

/-! What a second search finds, and what the first one leaves of the files. -/

/-- The same key is found again, whether the first search read it or wrote it. -/
theorem keyFromFile_again (h : (keyFromFile files path fresh).2 = .ok found) (other : Key) :
    keyFromFile (keyFromFile files path fresh).1 path other =
      ((keyFromFile files path fresh).1, .ok ⟨found.key, false⟩) := by
  cases hthere : files.contains path with
  | true =>
      obtain ⟨text, htext, hread⟩ := readKey_of_contains hthere h
      rw [keyFromFile_of_contains hthere, keyFromFile_of_contains hthere, htext]
      dsimp only
      rw [hread, ← (eq_of_readKey hread).1]
  | false =>
      rw [keyFromFile_of_missing hthere] at h ⊢
      obtain ⟨e, hfailed⟩ | ⟨written, -, hwrite, hdone⟩ := writeKey_cases files path fresh
      · rw [hfailed] at h
        cases h
      · rw [hdone] at h ⊢
        cases h
        have hfind := Files.find_of_write hwrite
        have hcontains : written.contains path = true := by rw [Files.contains, hfind]; rfl
        rw [keyFromFile_of_contains hcontains, Files.text_of_find hfind]
        exact congrArg _ (readKey_toText fresh)

/-- With a source that is named, the next search finds the key of the first and changes nothing. -/
theorem findKey_again (h : (s.findKey files fresh).2 = .ok found)
    (hsource : s.secret ≠ "" ∨ s.keyFile.isSome) (other : Key) :
    s.findKey (s.findKey files fresh).1 other =
      ((s.findKey files fresh).1, .ok ⟨found.key, false⟩) := by
  rcases findKey_cases s files fresh with ⟨hsecret, heq⟩ | ⟨hsecret, hnone, -⟩ |
    ⟨name, hsecret, hfile, heq⟩
  · rw [heq] at h ⊢
    rw [findKey_of_secret hsecret, ← (eq_of_readKey h).1]
    exact congrArg _ h
  · rw [hnone] at hsource
    cases hsource with
    | inl hne => exact absurd hsecret hne
    | inr hsome => cases hsome
  · rw [heq] at h ⊢
    rw [findKey_of_keyFile hsecret hfile]
    exact keyFromFile_again h other

/-- Either the key file is written, in which case nothing was found in its place before, or
else there are only more directories than there were. -/
theorem findKey_changes (s : Settings.Session) (files : Files) (fresh : Key) :
    (∃ name written, s.secret = "" ∧ s.keyFile = some name ∧
      files.contains (.ofText name) = false ∧
      (files.makeDirectories (Files.Path.ofText name).parent).2 = .ok () ∧
      (files.prepared (.ofText name)).write (.ofText name) (Utf8.encode fresh.toText) =
        .ok written ∧
      s.findKey files fresh = (written, .ok ⟨fresh, true⟩)) ∨
    files.GrowsTo (s.findKey files fresh).1 ∧
      ∀ found, s.keyFile.isSome → (s.findKey files fresh).2 = .ok found → found.isNew = false := by
  rcases findKey_cases s files fresh with ⟨-, heq⟩ | ⟨-, hnone, heq⟩ | ⟨name, hsecret, hfile, heq⟩
  · rw [heq]
    refine .inr ⟨.refl files, fun found _ h => ?_⟩
    rw [(eq_of_readKey h).1]
  · rw [heq, hnone]
    exact .inr ⟨.refl files, nofun⟩
  · rw [heq]
    -- a file is written only where none was found
    cases hthere : files.contains (.ofText name) with
    | true =>
        refine .inr ⟨?_, fun found _ h => ?_⟩
        · rw [keyFromFile_of_contains hthere]
          exact .refl files
        · obtain ⟨text, -, hread⟩ := readKey_of_contains hthere h
          rw [(eq_of_readKey hread).1]
    | false =>
        rw [keyFromFile_of_missing hthere]
        obtain ⟨e, hfailed⟩ | ⟨written, hmade, hwrite, hdone⟩ :=
          writeKey_cases files (.ofText name) fresh
        · rw [hfailed]
          exact .inr ⟨files.growsTo_prepared _, nofun⟩
        · exact .inl ⟨name, written, hsecret, hfile, hthere, hmade, hwrite, hdone⟩

/-- A new key is stored where nothing was found before. -/
theorem stored_of_isNew (hfile : s.keyFile = some name)
    (h : (s.findKey files fresh).2 = .ok found) (hnew : found.isNew = true) :
    found.key = fresh ∧ files.contains (.ofText name) = false ∧
      (s.findKey files fresh).1.text (.ofText name) = .ok fresh.toText := by
  rcases findKey_changes s files fresh with
    ⟨other, written, -, hother, hmissing, -, hwrite, hdone⟩ | ⟨-, hread⟩
  · cases hfile.symm.trans hother
    rw [hdone] at h ⊢
    cases h
    exact ⟨rfl, hmissing, Files.text_of_find (Files.find_of_write hwrite)⟩
  · have hold := hread found (by rw [hfile]; rfl) h
    cases hold.symm.trans hnew

theorem keepsDirectories_findKey (s : Settings.Session) (files : Files) (fresh : Key) :
    files.KeepsDirectories (s.findKey files fresh).1 := by
  rcases findKey_changes s files fresh with ⟨name, written, -, -, -, -, hwrite, hdone⟩ | ⟨hgrows, -⟩
  · obtain ⟨place, -, hplace, rfl⟩ := Files.write_eq_ok_iff.1 hwrite
    rw [hdone]
    intro other hother
    refine Files.keepsDirectories_put hplace other ?_
    exact (files.growsTo_prepared _).entryAt hother
  · exact hgrows.keepsDirectories

/-- A file to which no detour leads stays as it is. -/
theorem entryAt_of_not_detours (hplace : IsPlace place)
    (hentry : files.entryAt place = some (.file bytes)) (h : ¬ s.Detours files place) :
    (s.findKey files fresh).1.entryAt place = some (.file bytes) := by
  rcases findKey_changes s files fresh with
    ⟨name, written, hsecret, hfile, hmissing, hmade, hwrite, hdone⟩ | ⟨hgrows, -⟩
  · obtain ⟨target, hleads, -, rfl⟩ := Files.write_eq_ok_iff.1 hwrite
    have htarget : IsPlace target :=
      Files.isPlace_of_walk (fun _ => Files.isName_of_mem_steps) hleads
    have hne : place ≠ target := by
      rintro rfl
      exact h ⟨hsecret, name, hfile, hmissing, hmade, hleads⟩
    rw [hdone]
    dsimp only
    rw [Files.entryAt_put_of_ne htarget hplace hne]
    exact (files.growsTo_prepared _).entryAt hentry
  · exact hgrows.entryAt hentry

/-- A file to which a detour leads holds the new key afterwards. -/
theorem entryAt_of_detours (hentry : files.entryAt place = some (.file bytes))
    (h : s.Detours files place) :
    (s.findKey files fresh).1.entryAt place = some (.file (Utf8.encode fresh.toText)) := by
  obtain ⟨hsecret, name, hfile, hopens⟩ := h
  have hdirectory : (files.prepared (.ofText name)).entryAt place ≠ some .directory := by
    rw [(files.growsTo_prepared _).entryAt hentry]
    nofun
  have hwrite : (files.prepared (.ofText name)).write (.ofText name) (Utf8.encode fresh.toText) =
      .ok ((files.prepared (.ofText name)).put place (.file (Utf8.encode fresh.toText))) :=
    Files.write_eq_ok_iff.2 ⟨place, hopens.leads, hdirectory, rfl⟩
  rw [findKey_of_keyFile hsecret hfile, keyFromFile_of_missing hopens.missing,
    writeKey_of_write hopens.made hwrite]
  exact Files.entryAt_put_self hdirectory

/-- Only a path that goes up can lead to a file that was not found at its end. -/
theorem goUp_mem_of_detours (htree : files.IsTree)
    (hentry : files.entryAt place = some (.file bytes)) (h : s.Detours files place) :
    ∃ name, s.keyFile = some name ∧ Files.goUp ∈ (Files.Path.ofText name).steps := by
  obtain ⟨-, name, hfile, hopens⟩ := h
  refine ⟨name, hfile, ?_⟩
  refine Classical.byContradiction fun hup => ?_
  have hcontains := htree.contains_of_growsTo (fun _ => Files.isName_of_mem_steps)
    (files.growsTo_prepared _) hup hentry hopens.leads
  cases hopens.missing.symm.trans hcontains

/-- If a search finds a key and a source is named in the settings, the next search finds the
same key and changes nothing. With a secret the files are neither read nor changed. A new key
is in the key file, where nothing was found before, in a text that is read as this key. No
directory is lost, and no file is changed but one that the path of the key file reaches by
a detour, that is, only after directories on the path are made; this file then holds the new
key. In a tree of files this takes a path that goes up. -/
theorem files_are_kept_without_detour (s : Settings.Session) (files : Files) (fresh : Key) :
    (∀ found, (s.findKey files fresh).2 = .ok found → s.secret ≠ "" ∨ s.keyFile.isSome →
      ∀ other, s.findKey (s.findKey files fresh).1 other =
        ((s.findKey files fresh).1, .ok ⟨found.key, false⟩)) ∧
    (s.secret ≠ "" → ∀ files' other,
      s.findKey files' other = (files', (s.findKey files fresh).2)) ∧
    (∀ name found, s.keyFile = some name → (s.findKey files fresh).2 = .ok found →
      found.isNew = true → files.contains (.ofText name) = false ∧
        ∃ text, (s.findKey files fresh).1.text (.ofText name) = .ok text ∧
          Key.ofText text = .ok found.key) ∧
    files.KeepsDirectories (s.findKey files fresh).1 ∧
    (∀ place bytes, IsPlace place → files.entryAt place = some (.file bytes) →
      (¬ s.Detours files place →
        (s.findKey files fresh).1.entryAt place = some (.file bytes)) ∧
      (s.Detours files place →
        (s.findKey files fresh).1.entryAt place = some (.file (Utf8.encode fresh.toText)))) ∧
    ∀ place bytes, files.IsTree → files.entryAt place = some (.file bytes) →
      s.Detours files place →
        ∃ name, s.keyFile = some name ∧ Files.goUp ∈ (Files.Path.ofText name).steps := by
  refine ⟨?again, ?secret, ?stored, ?directories, ?unchanged, ?up⟩
  case again =>
    intro found h hsource other
    exact findKey_again h hsource other
  case secret =>
    intro hsecret files' other
    rw [findKey_of_secret hsecret, findKey_of_secret hsecret]
  case stored =>
    intro name found hfile h hnew
    obtain ⟨hkey, hmissing, htext⟩ := stored_of_isNew hfile h hnew
    refine ⟨hmissing, fresh.toText, htext, ?_⟩
    rw [hkey, Key.ofText_eq_ok_iff]
    exact fresh.spells_toText
  case directories => exact keepsDirectories_findKey s files fresh
  case unchanged =>
    intro place bytes hplace hentry
    exact ⟨entryAt_of_not_detours hplace hentry, entryAt_of_detours hentry⟩
  case up =>
    intro place bytes htree hentry h
    exact goUp_mem_of_detours htree hentry h

/-- The key in `k` is lost if the key file is named `d/../k` and there is no `d` yet. -/
theorem detour_destroys_a_key :
    ¬ ∀ (s : Settings.Session) (files : Files) (fresh : Key) (place : Files.Place)
        (bytes : List UInt8), files.IsTree → IsPlace place →
          files.entryAt place = some (.file bytes) →
            (s.findKey files fresh).1.entryAt place = some (.file bytes) := by
  intro h
  have hkept := h { keyFile := some "d/../k" }
    (Files.empty.add (.ofText "k")
      (.file (Utf8.encode "AAECAwQFBgcICQoLDA0ODxAREhMUFRYXGBkaGxwdHh8=")))
    ⟨List.replicate 32 0, rfl⟩ ("k".toList :: Files.workingDirectory)
    (Utf8.encode "AAECAwQFBgcICQoLDA0ODxAREhMUFRYXGBkaGxwdHh8=")
    (Files.isTree_add Files.isTree_empty _ _) (by decide +kernel) (by decide +kernel)
  revert hkept
  decide +kernel

end Settings.Session

end AuthGateway

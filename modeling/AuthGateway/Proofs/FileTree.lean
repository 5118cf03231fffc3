import AuthGateway.Files
import AuthGateway.Proofs.Dictionary
import AuthGateway.Proofs.Text

/-!
Trees of files. To make directories adds directories and changes nothing that stands, and to
write a file changes the one place where it is written. Where a path leads depends on the
directories alone, so that it leads there still after both. In a tree, a path that never goes
up leads to no file that stood there before the directories on the path were made.
-/
namespace AuthGateway.Files

variable {f g h : Files} {path : Path} {place other : Place} {name : Name} {steps : List Name}
  {e : Entry} {bytes : List UInt8} {text : String}

/-! What a single new entry changes. -/

section Put

/-- Directories may have been added, and nothing else has changed. -/
def GrowsTo (f g : Files) : Prop :=
  ∀ place, g.entryAt place = f.entryAt place ∨
    f.entryAt place = none ∧ g.entryAt place = some .directory

def KeepsDirectories (f g : Files) : Prop :=
  ∀ place, f.entryAt place = some .directory → g.entryAt place = some .directory

theorem entryAt_put (f : Files) (place : Place) (e : Entry) (other : Place) :
    (f.put place e).entryAt other =
      if other = root ∨ other = workingDirectory then some .directory
      else if spelled other = spelled place then some e else f.entryAt other := by
  unfold entryAt put
  rw [Dictionary.find?_insert]
  split
  · rfl
  · rfl

/-- The two places that are always directories cannot be taken by anything else. -/
theorem not_fixed (h : f.entryAt place ≠ some .directory) :
    ¬ (place = root ∨ place = workingDirectory) := by
  intro hfixed
  rw [entryAt, if_pos hfixed] at h
  exact h rfl

theorem entryAt_congr (hplace : ¬ (place = root ∨ place = workingDirectory))
    (hother : ¬ (other = root ∨ other = workingDirectory)) (h : spelled other = spelled place) :
    f.entryAt other = f.entryAt place := by
  rw [entryAt, entryAt, if_neg hplace, if_neg hother, h]

theorem entryAt_put_self (h : f.entryAt place ≠ some .directory) :
    (f.put place e).entryAt place = some e := by
  rw [entryAt_put, if_neg (not_fixed h), if_pos rfl]

theorem GrowsTo.refl (f : Files) : f.GrowsTo f :=
  fun _ => .inl rfl

theorem GrowsTo.trans (hfg : f.GrowsTo g) (hgh : g.GrowsTo h) : f.GrowsTo h := by
  intro place
  cases hgh place with
  | inl hsame =>
      rw [hsame]
      exact hfg place
  | inr hnew =>
      cases hfg place with
      | inl hsame => exact .inr ⟨hsame ▸ hnew.1, hnew.2⟩
      | inr hold => cases hold.2.symm.trans hnew.1

theorem GrowsTo.entryAt (hfg : f.GrowsTo g) (he : f.entryAt place = some e) :
    g.entryAt place = some e := by
  cases hfg place with
  | inl hsame => rw [hsame, he]
  | inr hnew => cases he.symm.trans hnew.1

theorem GrowsTo.keepsDirectories (hfg : f.GrowsTo g) : f.KeepsDirectories g :=
  fun _ => hfg.entryAt

theorem growsTo_put (h : f.entryAt place = none) : f.GrowsTo (f.put place .directory) := by
  have hfree : ¬ (place = root ∨ place = workingDirectory) :=
    not_fixed fun hdirectory => nomatch h.symm.trans hdirectory
  intro other
  rw [entryAt_put]
  split
  · next hfixed => exact .inl (if_pos hfixed).symm
  · next hfixed =>
      split
      · next hspelled => exact .inr ⟨(entryAt_congr hfree hfixed hspelled).trans h, rfl⟩
      · exact .inl rfl

theorem keepsDirectories_put (h : f.entryAt place ≠ some .directory) :
    f.KeepsDirectories (f.put place e) := by
  intro other hother
  rw [entryAt_put]
  split
  · rfl
  · next hfixed =>
      rw [if_neg, hother]
      intro hspelled
      exact h ((entryAt_congr (not_fixed h) hfixed hspelled).symm.trans hother)

end Put

/-! Names without a slash tell places apart by their spelling. -/

section Names

def IsName (name : Name) : Prop :=
  name ≠ [] ∧ '/' ∉ name

def IsPlace (place : Place) : Prop :=
  ∀ name ∈ place, IsName name

instance : DecidablePred IsName :=
  fun name => inferInstanceAs (Decidable (name ≠ [] ∧ '/' ∉ name))

instance : DecidablePred IsPlace :=
  fun place => inferInstanceAs (Decidable (∀ name ∈ place, IsName name))

theorem isName_of_mem_steps (h : name ∈ (Path.ofText text).steps) : IsName name := by
  rw [Path.ofText, List.mem_append] at h
  cases h with
  | inl hpiece =>
      obtain ⟨hmem, hne⟩ := List.mem_filter.1 hpiece
      refine ⟨by simpa using hne, fun hslash => ?_⟩
      exact (Split.mem_of_mem_pieces hmem hslash).2 rfl
  | inr hend =>
      split at hend
      · rw [List.mem_singleton.1 hend]
        decide
      · cases hend

theorem pieces_spelled (h : IsPlace place) :
    (Split.pieces '/' (spelled place).toList).filter (fun n => !n.isEmpty) = place.reverse := by
  rw [spelled, String.toList_ofList]
  by_cases hnil : place = []
  · rw [hnil]
    rfl
  · rw [Split.pieces_join (by simpa using hnil) fun n hn => (h n (List.mem_reverse.1 hn)).2,
      List.filter_eq_self]
    intro n hn
    simpa using (h n (List.mem_reverse.1 hn)).1

theorem spelled_inj (hplace : IsPlace place) (hother : IsPlace other)
    (h : spelled other = spelled place) : other = place := by
  rw [← List.reverse_inj, ← pieces_spelled hother, h, pieces_spelled hplace]

theorem entryAt_put_of_ne (hplace : IsPlace place) (hother : IsPlace other) (h : other ≠ place) :
    (f.put place e).entryAt other = f.entryAt other := by
  rw [entryAt_put]
  split
  · next hfixed => exact (if_pos hfixed).symm
  · rw [if_neg fun hspelled => h (spelled_inj hplace hother hspelled)]

end Names

/-! Where paths lead. -/

section Walks

theorem directory_of_step (h : f.step place name = .ok other) :
    f.entryAt place = some .directory := by
  unfold step at h
  split at h
  · cases h
  · cases h
  · next hdirectory => exact hdirectory

theorem step_of_directory (h : f.entryAt place = some .directory) :
    f.step place name =
      if name = stay then .ok place
      else if name = goUp then .ok place.tail
      else if nameLimit < (Utf8.encodeChars name).length then .error .nameTooLong
      else .ok (name :: place) := by
  rw [step, h]

/-- A step stays where it is, goes up, or goes down by one name. -/
theorem step_cases (h : f.step place name = .ok other) :
    other = place ∨ (name = goUp ∧ other = place.tail) ∨ other = name :: place := by
  rw [step_of_directory (directory_of_step h)] at h
  split at h
  · cases h
    exact .inl rfl
  · split at h
    · next hup =>
        cases h
        exact .inr (.inl ⟨hup, rfl⟩)
    · split at h
      · cases h
      · cases h
        exact .inr (.inr rfl)

theorem foldlM_step_cons :
    (name :: steps).foldlM f.step place = .ok other ↔
      ∃ next, f.step place name = .ok next ∧ steps.foldlM f.step next = .ok other := by
  rw [List.foldlM_cons]
  cases f.step place name with
  | error e => exact iff_of_false nofun nofun
  | ok next =>
      constructor
      · intro h
        exact ⟨next, rfl, h⟩
      · rintro ⟨_, hnext, h⟩
        cases hnext
        exact h

/-- A property of places that every step keeps. -/
theorem foldlM_step_preserves {P : Place → Prop}
    (hstep : ∀ name ∈ steps, ∀ place other, P place → f.step place name = .ok other → P other)
    (hplace : P place) (h : steps.foldlM f.step place = .ok other) : P other := by
  induction steps generalizing place with
  | nil =>
      cases h
      exact hplace
  | cons name rest ih =>
      obtain ⟨next, hnext, hrest⟩ := foldlM_step_cons.1 h
      refine ih (fun n hn => hstep n (List.mem_cons_of_mem _ hn)) ?_ hrest
      exact hstep name List.mem_cons_self place next hplace hnext

theorem KeepsDirectories.foldlM (hfg : f.KeepsDirectories g)
    (h : steps.foldlM f.step place = .ok other) : steps.foldlM g.step place = .ok other := by
  induction steps generalizing place with
  | nil => exact h
  | cons name rest ih =>
      obtain ⟨next, hnext, hrest⟩ := foldlM_step_cons.1 h
      have hdirectory := directory_of_step hnext
      refine foldlM_step_cons.2 ⟨next, ?_, ih hrest⟩
      rw [step_of_directory (hfg place hdirectory), ← hnext, step_of_directory hdirectory]

theorem foldlM_of_walk (h : f.walk path = .ok place) :
    path.steps.foldlM f.step path.start = .ok place := by
  unfold walk at h
  split at h
  · cases h
  · split at h
    · cases h
    · exact h

/-- Another tree in which the path goes the same way leads it to the same place. -/
theorem walk_of_foldlM (h : f.walk path = .ok place)
    (hg : path.steps.foldlM g.step path.start = .ok place) : g.walk path = .ok place := by
  unfold walk at h ⊢
  split
  · next hnul =>
      rw [if_pos hnul] at h
      cases h
  · next hnul =>
      rw [if_neg hnul] at h
      split
      · next hlong =>
          rw [if_pos hlong] at h
          cases h
      · exact hg

theorem KeepsDirectories.walk (hfg : f.KeepsDirectories g) (h : f.walk path = .ok place) :
    g.walk path = .ok place :=
  walk_of_foldlM h (hfg.foldlM (foldlM_of_walk h))

theorem find_of_walk (h : f.walk path = .ok place) (he : f.entryAt place = some e) :
    f.find path = .ok e := by
  rw [find, h]
  simp only [bind, Except.bind, he]
  rfl

theorem text_of_find (h : f.find path = .ok (.file (Utf8.encode text))) :
    f.text path = .ok text := by
  rw [Files.text, h]
  simp only [bind, Except.bind, Utf8.decode?_encode]
  rfl

theorem isPlace_start (path : Path) : IsPlace path.start := by
  unfold Path.start
  split
  · decide
  · decide

theorem isPlace_of_walk (hpath : ∀ n ∈ path.steps, IsName n) (h : f.walk path = .ok place) :
    IsPlace place := by
  refine foldlM_step_preserves (P := IsPlace) ?_ (isPlace_start path) (foldlM_of_walk h)
  intro name hname place other hplace hstep
  rcases step_cases hstep with rfl | ⟨-, rfl⟩ | rfl
  · exact hplace
  · exact fun n hn => hplace n (List.mem_of_mem_tail hn)
  · exact List.forall_mem_cons.2 ⟨hpath name hname, hplace⟩

end Walks

/-! Making directories and writing files. -/

section Changes

/-- Making a directory adds it where its path leads, unless it is there. -/
theorem makeDirectory_eq_ok (h : f.makeDirectory path = .ok g) :
    ∃ place, f.walk path = .ok place ∧
      (f.entryAt place = some .directory ∧ g = f ∨
        f.entryAt place = none ∧ g = f.put place .directory) := by
  unfold makeDirectory at h
  cases hwalk : f.walk path with
  | error e =>
      rw [hwalk] at h
      cases h
  | ok place =>
      rw [hwalk] at h
      refine ⟨place, rfl, ?_⟩
      simp only [bind, Except.bind] at h
      split at h
      · next hdirectory =>
          cases h
          exact .inl ⟨hdirectory, rfl⟩
      · cases h
      · next hnone =>
          cases h
          exact .inr ⟨hnone, rfl⟩

theorem growsTo_makeDirectory (h : f.makeDirectory path = .ok g) : f.GrowsTo g := by
  obtain ⟨place, -, ⟨-, rfl⟩ | ⟨hnone, rfl⟩⟩ := makeDirectory_eq_ok h
  · exact .refl _
  · exact growsTo_put hnone

/-- What making one directory keeps, making all of them on a path keeps. -/
theorem makeFrom_preserves {P : Files → Prop} {Q : Name → Prop} {isAbsolute : Bool}
    (hstep : ∀ f g path, (∀ n ∈ path.steps, Q n) → P f → f.makeDirectory path = .ok g → P g)
    (hsteps : ∀ n ∈ steps, Q n) (hf : P f) : P (f.makeFrom isAbsolute steps).1 := by
  fun_induction makeFrom f isAbsolute steps with
  | case1 => exact hf
  | case2 name outer path made hmade =>
      exact hstep f made path (fun n hn => hsteps n (List.mem_reverse.1 hn)) hf hmade
  | case3 name outer path hmissing between e hbetween ih =>
      rw [hbetween] at ih
      exact ih (List.forall_mem_cons.1 hsteps).2
  | case4 name outer path hmissing between hbetween made hmade ih =>
      rw [hbetween] at ih
      have hbetween := ih (List.forall_mem_cons.1 hsteps).2
      exact hstep between made path (fun n hn => hsteps n (List.mem_reverse.1 hn)) hbetween hmade
  | case5 name outer path hmissing between hbetween e he ih =>
      rw [hbetween] at ih
      exact ih (List.forall_mem_cons.1 hsteps).2
  | case6 => exact hf

theorem growsTo_makeDirectories (f : Files) (path : Path) :
    f.GrowsTo (f.makeDirectories path).1 := by
  refine makeFrom_preserves (P := f.GrowsTo) (Q := fun _ => True) ?_ (fun _ _ => trivial) (.refl f)
  intro between made path _ hbetween hmade
  exact hbetween.trans (growsTo_makeDirectory hmade)

/-- A file is written where its path leads, over anything but a directory. -/
theorem write_eq_ok_iff :
    f.write path bytes = .ok g ↔
      ∃ place, f.walk path = .ok place ∧ f.entryAt place ≠ some .directory ∧
        g = f.put place (.file bytes) := by
  unfold write writable
  cases hwalk : f.walk path with
  | error e => exact iff_of_false nofun nofun
  | ok place =>
      simp only [bind, Except.bind, Except.ok.injEq, exists_eq_left']
      cases hentry : f.entryAt place with
      | none => simp [pure, Except.pure, eq_comm]
      | some e =>
          cases e with
          | directory => simp [throw, throwThe, MonadExceptOf.throw]
          | file old => simp [pure, Except.pure, eq_comm]

/-- What was written is found where it was written. -/
theorem find_of_write (h : f.write path bytes = .ok g) : g.find path = .ok (.file bytes) := by
  obtain ⟨place, hwalk, hplace, rfl⟩ := write_eq_ok_iff.1 h
  exact find_of_walk ((keepsDirectories_put hplace).walk hwalk) (entryAt_put_self hplace)

end Changes

/-! Trees: whatever has a name stands in a directory. -/

section Trees

def IsTree (f : Files) : Prop :=
  ∀ name outer, IsPlace (name :: outer) → (f.entryAt (name :: outer)).isSome →
    f.entryAt outer = some .directory

theorem isTree_empty : empty.IsTree := by
  intro name outer _ h
  unfold entryAt at h
  split at h
  · next hfixed =>
      cases hfixed with
      | inl hroot => cases hroot
      | inr hworking =>
          cases hworking
          rfl
  · cases h

def IsWithin (f : Files) (place : Place) : Prop :=
  f.entryAt place = some .directory ∨
    ∃ name outer, place = name :: outer ∧ f.entryAt outer = some .directory

section

variable (hf : f.IsTree)
include hf

/-- In a tree, a path leads to a directory or into one. -/
theorem IsTree.isWithin_of_walk (hpath : ∀ n ∈ path.steps, IsName n)
    (h : f.walk path = .ok place) : f.IsWithin place := by
  have hwalk : IsPlace place ∧ f.IsWithin place := by
    refine foldlM_step_preserves (P := fun p => IsPlace p ∧ f.IsWithin p) ?_
      ⟨isPlace_start path, ?_⟩ (foldlM_of_walk h)
    · intro name hname place other hplace hstep
      have hdirectory := directory_of_step hstep
      rcases step_cases hstep with rfl | ⟨-, rfl⟩ | rfl
      · exact hplace
      · cases place with
        | nil => exact hplace
        | cons inner outer =>
            have houter := hf inner outer hplace.1 (hdirectory ▸ rfl)
            exact ⟨(List.forall_mem_cons.1 hplace.1).2, .inl houter⟩
      · exact ⟨List.forall_mem_cons.2 ⟨hpath name hname, hplace.1⟩,
          .inr ⟨name, place, rfl, hdirectory⟩⟩
    · refine .inl (if_pos ?_)
      unfold Path.start
      split
      · exact .inl rfl
      · exact .inr rfl
  exact hwalk.2

theorem IsTree.put (hplace : IsPlace place) (hwithin : f.IsWithin place)
    (h : f.entryAt place ≠ some .directory) : (f.put place e).IsTree := by
  have hkeeps : f.KeepsDirectories (f.put place e) := keepsDirectories_put h
  intro name outer hnamed hsome
  by_cases hsame : name :: outer = place
  · cases hwithin with
    | inl hdirectory => exact absurd hdirectory h
    | inr houter =>
        obtain ⟨_, _, hcons, hdirectory⟩ := houter
        cases hsame.trans hcons
        exact hkeeps _ hdirectory
  · rw [entryAt_put_of_ne hplace hnamed hsame] at hsome
    exact hkeeps _ (hf name outer hnamed hsome)

theorem IsTree.makeDirectory (hpath : ∀ n ∈ path.steps, IsName n)
    (h : f.makeDirectory path = .ok g) : g.IsTree := by
  obtain ⟨place, hwalk, ⟨-, rfl⟩ | ⟨hnone, rfl⟩⟩ := makeDirectory_eq_ok h
  · exact hf
  · exact hf.put (isPlace_of_walk hpath hwalk) (hf.isWithin_of_walk hpath hwalk)
      fun hdirectory => nomatch hnone.symm.trans hdirectory

theorem IsTree.makeDirectories (hpath : ∀ n ∈ path.steps, IsName n) :
    (f.makeDirectories path).1.IsTree := by
  refine makeFrom_preserves (P := IsTree) (Q := IsName) ?_
    (fun n hn => hpath n (List.mem_reverse.1 hn)) hf
  intro between made path hnames hbetween hmade
  exact hbetween.makeDirectory hnames hmade

theorem IsTree.write (hpath : ∀ n ∈ path.steps, IsName n) (h : f.write path bytes = .ok g) :
    g.IsTree := by
  obtain ⟨place, hwalk, hplace, rfl⟩ := write_eq_ok_iff.1 h
  exact hf.put (isPlace_of_walk hpath hwalk) (hf.isWithin_of_walk hpath hwalk) hplace

/-- Everything on the way to what stands somewhere is a directory. -/
theorem IsTree.directory_of_suffix (hplace : IsPlace place) (h : (f.entryAt place).isSome)
    (hsuffix : other <:+ place) (hne : other ≠ place) : f.entryAt other = some .directory := by
  induction place with
  | nil => exact absurd (List.suffix_nil.1 hsuffix) hne
  | cons name outer ih =>
      have houter := hf name outer hplace h
      rcases List.suffix_cons_iff.1 hsuffix with hsame | hsuffix
      · exact absurd hsame hne
      · by_cases hsame : other = outer
        · rw [hsame, houter]
        · exact ih (List.forall_mem_cons.1 hplace).2 (houter ▸ rfl) hsuffix hsame

/-- Without a step up, new directories open no way to a file that was there before. -/
theorem IsTree.foldlM_of_growsTo (hfg : f.GrowsTo g) (hup : goUp ∉ steps) (hother : IsPlace other)
    (hfile : f.entryAt other = some (.file bytes)) (h : steps.foldlM g.step place = .ok other) :
    steps.foldlM f.step place = .ok other := by
  induction steps generalizing place with
  | nil => exact h
  | cons name rest ih =>
      obtain ⟨next, hnext, hrest⟩ := foldlM_step_cons.1 h
      have hdirectory := directory_of_step hnext
      have hsuffix : place <:+ other := by
        refine foldlM_step_preserves (P := (place <:+ ·)) ?_ (List.suffix_refl _) h
        intro name hname p q hp hstep
        rcases step_cases hstep with rfl | ⟨rfl, -⟩ | rfl
        · exact hp
        · exact absurd hname hup
        · exact hp.trans (List.suffix_cons name p)
      -- the file is no directory, so that the way to it has not come to its end yet
      have hne : place ≠ other := by
        rintro rfl
        cases hdirectory.symm.trans (hfg.entryAt hfile)
      have hplace := hf.directory_of_suffix hother (hfile ▸ rfl) hsuffix hne
      refine foldlM_step_cons.2 ⟨next, ?_, ih (fun hmem => hup (List.mem_cons_of_mem _ hmem)) hrest⟩
      rw [step_of_directory hplace, ← hnext, step_of_directory hdirectory]

theorem IsTree.contains_of_growsTo (hpath : ∀ n ∈ path.steps, IsName n) (hfg : f.GrowsTo g)
    (hup : goUp ∉ path.steps) (hfile : f.entryAt place = some (.file bytes))
    (h : g.walk path = .ok place) : f.contains path = true := by
  have hwalk := walk_of_foldlM h
    (hf.foldlM_of_growsTo hfg hup (isPlace_of_walk hpath h) hfile (foldlM_of_walk h))
  rw [contains, find_of_walk hwalk hfile]
  rfl

end

theorem isName_of_mem_parent (h : ∀ n ∈ path.steps, IsName n) : ∀ n ∈ path.parent.steps, IsName n :=
  fun n hn => h n (List.mem_filter.1 ((List.dropLast_sublist _).subset hn)).1

/-- Whatever is put into a tree with the directories it needs, it stays a tree. -/
theorem isTree_add (hf : f.IsTree) (text : String) (e : Entry) :
    (f.add (.ofText text) e).IsTree := by
  have hpath : ∀ n ∈ (Path.ofText text).steps, IsName n := fun n => isName_of_mem_steps
  cases e with
  | directory => exact hf.makeDirectories hpath
  | file bytes =>
      have hbetween := hf.makeDirectories (isName_of_mem_parent hpath)
      simp only [add]
      cases hwrite : (f.makeDirectories (Path.ofText text).parent).1.write (.ofText text) bytes with
      | error e => exact hbetween
      | ok g => exact hbetween.write hpath hwrite

end Trees

end AuthGateway.Files

import LiteratePages.Files
import LiteratePages.Proofs.Agreement
import LiteratePages.Site.Build

namespace LiteratePages

namespace Files

theorem lookup_entry (place other : Place) (node : Node) (rest : List (Place × Node)) :
    ((place, node) :: rest).lookup other =
      if other = place then some node else rest.lookup other := by
  by_cases same : other = place
  · rw [if_pos same, same, List.lookup_cons_self]
  · rw [if_neg same, List.lookup_cons, beq_false_of_ne same]

theorem lookup_put (place other : Place) (node : Node) (nodes : List (Place × Node)) :
    (put place node nodes).lookup other =
      if other = place then some node else nodes.lookup other := by
  induction nodes with
  | nil => exact lookup_entry ..
  | cons entry rest ih =>
      obtain ⟨held, content⟩ := entry
      rw [put, lookup_entry]
      by_cases there : place = held
      · rw [if_pos there, lookup_entry, there]
        split <;> rfl
      · rw [if_neg there, lookup_entry, ih]
        by_cases same : other = place
        · rw [if_neg (same ▸ there), if_pos same, if_pos same]
        · rw [if_neg same, if_neg same]

/-- What is put at a place is there afterwards, unless a directory has to stay there. Nothing else
changes. -/
theorem node?_putAt {files : Files} {place : Place} (vacant : files.node? place ≠ some .directory)
    (node : Node) (other : Place) :
    (files.putAt place node).node? other =
      if other = place then some node else files.node? other := by
  have elsewhere : ¬ place <+: files.working := fun around => vacant (if_pos around)
  unfold putAt node?
  rw [lookup_put]
  by_cases same : other = place
  · rw [if_pos same, if_neg (same ▸ elsewhere), if_pos same]
  · rw [if_neg same, if_neg same]

/-- The place that a directory and perhaps a name in it are. -/
def destination : Place × Option String → Place
  | (place, none) => place
  | (place, some name) => enter place name

/-- Where a path leads, whether or not something is there. -/
def place? (files : Files) (path : String) : Option Place :=
  (files.locate path).toOption.map destination

/-- Every directory stays one, and the working directory stays where it is. -/
structure KeepsDirectories (before after : Files) : Prop where
  working : after.working = before.working
  kept : ∀ {place}, before.node? place = some .directory → after.node? place = some .directory

/-- Everything stays as it is, and only directories are added. -/
structure GrowsTo (before after : Files) : Prop where
  working : after.working = before.working
  kept : ∀ {place node}, before.node? place = some node → after.node? place = some node
  added : ∀ {place content}, after.node? place = some (.file content) →
    before.node? place = some (.file content)

variable {before middle after : Files} {path text : String}

namespace KeepsDirectories

theorem trans (first : before.KeepsDirectories middle) (second : middle.KeepsDirectories after) :
    before.KeepsDirectories after :=
  ⟨second.working.trans first.working, fun directory => second.kept (first.kept directory)⟩

theorem walk (stay : before.KeepsDirectories after) {names : List String} {place reached : Place}
    (walked : before.walk place names = .ok reached) : after.walk place names = .ok reached := by
  induction names generalizing place with
  | nil => exact walked
  | cons name rest ih =>
      unfold Files.walk at walked ⊢
      split at walked
      · cases walked
      · next short =>
          rw [if_neg short]
          split at walked
          · cases walked
          · next found =>
              rw [stay.kept found]
              exact ih walked
          · cases walked

theorem origin (stay : before.KeepsDirectories after) (path : String) :
    after.origin path = before.origin path := by
  unfold Files.origin
  rw [stay.working]

theorem locate (stay : before.KeepsDirectories after) {found : Place × Option String}
    (located : before.locate path = .ok found) : after.locate path = .ok found := by
  have mapped : ∀ {names place} {leads : Place → Place × Option String},
      (before.walk place names).map leads = .ok found →
        (after.walk place names).map leads = .ok found := by
    intro names place leads walked
    obtain ⟨reached, ended, rfl⟩ := map_eq_ok.mp walked
    rw [stay.walk ended, Except.map]
  unfold Files.locate at located ⊢
  rw [stay.origin]
  split
  · next empty => rwa [if_pos empty] at located
  · next some =>
      rw [if_neg some] at located
      split
      · next zero => rwa [if_pos zero] at located
      · next clean =>
          rw [if_neg clean] at located
          split
          · next long => rwa [if_pos long] at located
          · next short =>
              rw [if_neg short] at located
              dsimp only at located ⊢
              split at located <;> exact mapped located

theorem place? (stay : before.KeepsDirectories after) {place : Place}
    (leads : before.place? path = some place) : after.place? path = some place := by
  unfold Files.place? at leads ⊢
  cases located : before.locate path with
  | error fault =>
      rw [located] at leads
      cases leads
  | ok found =>
      rw [located] at leads
      rwa [stay.locate located]

/-- Paths that lead apart led apart before. -/
theorem place?_ne (stay : before.KeepsDirectories after) {other : String} {place : Place}
    (leads : before.place? path = some place) (apart : after.place? other ≠ after.place? path) :
    before.place? other ≠ before.place? path := by
  intro same
  rw [stay.place? leads, stay.place? (same.trans leads)] at apart
  exact apart rfl

theorem find (stay : before.KeepsDirectories after) {node : Node}
    (held : before.find path = .ok (some node))
    (same : ∀ {place}, before.place? path = some place →
      before.node? place = some node → after.node? place = some node) :
    after.find path = .ok (some node) := by
  unfold Files.find at held ⊢
  cases located : before.locate path with
  | error fault =>
      rw [located] at held
      cases held
  | ok found =>
      have leads : before.place? path = some (destination found) := by
        rw [Files.place?, located]
        rfl
      rw [located] at held
      rw [stay.locate located]
      obtain ⟨place, name⟩ := found
      cases name with
      | none => exact congrArg Except.ok (same leads (Except.ok.inj held))
      | some name =>
          unfold look at held ⊢
          dsimp only at held ⊢
          split at held
          · cases held
          · next short =>
              rw [if_neg short]
              exact congrArg Except.ok (same leads (Except.ok.inj held))

/-- A text can be read as before where the file that holds it stays. -/
theorem readText (stay : before.KeepsDirectories after) (read : before.readText path = .ok text)
    (same : ∀ {place content}, before.place? path = some place →
      before.node? place = some (.file content) → after.node? place = some (.file content)) :
    after.readText path = .ok text := by
  unfold Files.readText at read ⊢
  split at read
  · cases read
  · cases read
  · cases read
  · next held =>
      rw [stay.find held same]
      exact read

end KeepsDirectories

theorem exists_place_of_readText (read : before.readText path = .ok text) :
    ∃ place, before.place? path = some place := by
  unfold place?
  cases located : before.locate path with
  | error fault =>
      rw [readText, find, located] at read
      cases read
  | ok found => exact ⟨_, rfl⟩

namespace GrowsTo

theorem refl (files : Files) : files.GrowsTo files := ⟨rfl, id, id⟩

theorem trans (first : before.GrowsTo middle) (second : middle.GrowsTo after) :
    before.GrowsTo after where
  working := second.working.trans first.working
  kept held := second.kept (first.kept held)
  added held := first.added (second.added held)

theorem keepsDirectories (grows : before.GrowsTo after) : before.KeepsDirectories after :=
  ⟨grows.working, grows.kept⟩

theorem readText (grows : before.GrowsTo after) (read : before.readText path = .ok text) :
    after.readText path = .ok text :=
  grows.keepsDirectories.readText read fun _ held => grows.kept held

end GrowsTo

section

variable {place : Place} {name : String}

theorem keepsDirectories_putAt (vacant : before.node? place ≠ some .directory) (node : Node) :
    before.KeepsDirectories (before.putAt place node) := by
  refine ⟨rfl, fun {other} directory => ?_⟩
  have elsewhere : other ≠ place := by
    rintro rfl
    exact vacant directory
  rw [node?_putAt vacant, if_neg elsewhere]
  exact directory

theorem growsTo_putAt_directory (vacant : before.node? place = none) :
    before.GrowsTo (before.putAt place .directory) := by
  have free : before.node? place ≠ some .directory := by simp [vacant]
  refine ⟨rfl, fun {other node} held => ?_, fun {other content} held => ?_⟩
  · have elsewhere : other ≠ place := by
      rintro rfl
      cases vacant.symm.trans held
    rwa [node?_putAt free, if_neg elsewhere]
  · rw [node?_putAt free] at held
    split at held
    · cases held
    · exact held

theorem look_eq_ok_iff {found : Option Node} :
    before.look place name = .ok found ↔
      ¬ 255 < name.utf8ByteSize ∧ before.node? (enter place name) = found := by
  by_cases long : 255 < name.utf8ByteSize
  · simp [look, long]
  · simp [look, long]

theorem growsTo_of_makeDirectory (made : before.makeDirectory path = .ok after) :
    before.GrowsTo after := by
  unfold makeDirectory at made
  split at made
  · cases made
  · cases made
  · split at made
    · cases made
    · cases made
    · next looked =>
        cases made
        exact growsTo_putAt_directory (look_eq_ok_iff.mp looked).2

theorem growsTo_ensureDirectory (files : Files) (path : String) :
    files.GrowsTo (files.ensureDirectory path).2 := by
  unfold ensureDirectory
  split
  · next made => exact growsTo_of_makeDirectory made
  · exact .refl files

theorem growsTo_ensureAbove (levels : Nat) (files : Files) (path : String) :
    files.GrowsTo (files.ensureAbove levels path).2 := by
  induction levels generalizing files path with
  | zero => exact .refl files
  | succ levels ih =>
      have first := growsTo_ensureDirectory files path
      unfold ensureAbove
      split
      · exact .refl files
      · split
        · next reached tried =>
            rw [tried] at first
            split
            · exact first
            · next above _ =>
                have outer := ih reached above
                split
                · next made =>
                    rw [made] at outer
                    exact first.trans (outer.trans (growsTo_ensureDirectory _ path))
                · exact first.trans outer
        · exact first

theorem growsTo_ensureDirectories (files : Files) (path : String) :
    files.GrowsTo (FileSystem.ensureDirectories files path).2 :=
  growsTo_ensureAbove (path.length + 1) files path

theorem writeText_eq_ok (written : before.writeText path text = (.ok (), after)) :
    ∃ place name, before.locate path = .ok (place, some name) ∧ endsInSlash path = false ∧
      ¬ 255 < name.utf8ByteSize ∧ before.node? (enter place name) ≠ some .directory ∧
      after = before.putAt (enter place name) (.file text.toUTF8) := by
  unfold writeText at written
  split at written
  · cases written
  · cases written
  · next place name located =>
      split at written
      · cases written
      · next unslashed =>
          split at written
          · cases written
          · cases written
          · next found vacant looked =>
              cases written
              obtain ⟨short, rfl⟩ := look_eq_ok_iff.mp looked
              exact ⟨place, name, located, by simpa using unslashed, short, vacant, rfl⟩

theorem eq_of_writeText_error {fault : FileFault}
    (failed : before.writeText path text = (.error fault, after)) : after = before := by
  unfold writeText at failed
  repeat' split at failed
  all_goals cases failed
  all_goals rfl

/-- A text that was written can be read, and what other paths lead to is as before. -/
theorem readText_of_writeText (written : before.writeText path text = (.ok (), after)) :
    before.KeepsDirectories after ∧ after.readText path = .ok text ∧
      ∃ place, before.place? path = some place ∧
        ∀ other, other ≠ place → after.node? other = before.node? other := by
  obtain ⟨place, name, located, unslashed, short, vacant, rfl⟩ := writeText_eq_ok written
  have changed := node?_putAt vacant (.file text.toUTF8)
  have stay := keepsDirectories_putAt vacant (.file text.toUTF8)
  have leads : before.place? path = some (enter place name) := by
    rw [place?, located]
    rfl
  have filed : (before.putAt (enter place name) (.file text.toUTF8)).find path =
      .ok (some (.file text.toUTF8)) := by
    rw [find, stay.locate located]
    dsimp only
    rw [look, if_neg short, changed, if_pos rfl]
  have decoded : String.fromUTF8? text.toUTF8 = some text := dif_pos text.isValidUTF8
  refine ⟨stay, ?_, enter place name, leads, fun other elsewhere => ?_⟩
  · rw [readText, filed]
    dsimp only
    rw [unslashed, decoded]
    exact if_neg Bool.false_ne_true
  · rw [changed, if_neg elsewhere]

end

end Files

section

variable {σ : Type} [FileSystem σ]

/-- What files may have become before an output is written: nothing else was needed, or directories
have been made. -/
def Prepared (files ready : σ) : Prop :=
  ready = files ∨ ∃ above, FileSystem.ensureDirectories files above = (.ok (), ready)

/-- What may have become of files where an output was not written: nothing; or a directory for it
could not be made; or that went well, or was not needed, and the file could not be written. -/
inductive Unwritten (files : σ) : (left : σ) → Prop where
  | untouched : Unwritten files files
  | noDirectory {above : String} {fault : FileFault} {left : σ}
      (failed : FileSystem.ensureDirectories files above = (.error fault, left)) :
      Unwritten files left
  | noFile {path text : String} {fault : FileFault} {ready left : σ}
      (prepared : Prepared files ready)
      (failed : FileSystem.writeText ready path text = (.error fault, left)) :
      Unwritten files left

section

variable {files left : σ} {path text : String} {error : CommandError}

theorem prepared_of_prepareOutput (done : prepareOutput files path = (.ok (), left)) :
    Prepared files left := by
  cases directory : Path.directory? path with
  | none =>
      simp only [prepareOutput, directory, Prod.mk.injEq, true_and] at done
      exact .inl done.symm
  | some above =>
      rcases made : FileSystem.ensureDirectories files above with ⟨fault | _, reached⟩
      · simp [prepareOutput, directory, made] at done
      · simp only [prepareOutput, directory, made, Prod.mk.injEq, true_and] at done
        exact .inr ⟨above, done ▸ made⟩

theorem unwritten_of_prepareOutput_error
    (failed : prepareOutput files path = (.error error, left)) : Unwritten files left := by
  cases directory : Path.directory? path with
  | none => simp [prepareOutput, directory] at failed
  | some above =>
      rcases made : FileSystem.ensureDirectories files above with ⟨fault | _, reached⟩
      · simp only [prepareOutput, directory, made, Prod.mk.injEq] at failed
        exact .noDirectory (failed.2 ▸ made)
      · simp [prepareOutput, directory, made] at failed

theorem unwritten_of_writeOutput_error
    (failed : writeOutput files path text = (.error error, left)) : Unwritten files left := by
  rcases prepared : prepareOutput files path with ⟨fault | _, ready⟩
  · simp only [writeOutput, prepared, Prod.mk.injEq] at failed
    exact unwritten_of_prepareOutput_error (failed.2 ▸ prepared)
  · rcases written : FileSystem.writeText ready path text with ⟨fault | _, reached⟩
    · simp only [writeOutput, prepared, written, Prod.mk.injEq] at failed
      exact .noFile (prepared_of_prepareOutput prepared) (failed.2 ▸ written)
    · simp [writeOutput, prepared, written] at failed

end

theorem Prepared.growsTo {files ready : Files} (prepared : Prepared files ready) :
    files.GrowsTo ready := by
  rcases prepared with rfl | ⟨above, made⟩
  · exact .refl _
  · have grows := files.growsTo_ensureDirectories above
    rwa [made] at grows

/-- In a tree there are more directories at most. -/
theorem Unwritten.growsTo {files left : Files} (unwritten : Unwritten files left) :
    files.GrowsTo left := by
  cases unwritten with
  | untouched => exact .refl files
  | @noDirectory above _ _ failed =>
      have grows := files.growsTo_ensureDirectories above
      rwa [failed] at grows
  | @noFile _ _ _ ready _ prepared failed =>
      rw [Files.eq_of_writeText_error failed]
      exact prepared.growsTo

end

section

variable {files left : Files} {path text : String}

/-- An output that is written can be read, and what paths that lead elsewhere are read as stays. -/
theorem readText_of_writeOutput (written : writeOutput files path text = (.ok (), left)) :
    files.KeepsDirectories left ∧ left.readText path = .ok text ∧
      ∀ {other held}, files.readText other = .ok held → left.place? other ≠ left.place? path →
        left.readText other = .ok held := by
  unfold writeOutput at written
  split at written
  · cases written
  · next ready =>
      split at written
      · next filed =>
          cases written
          have prepared := (prepared_of_prepareOutput ready).growsTo
          obtain ⟨stay, read, target, leads, unchanged⟩ := Files.readText_of_writeText filed
          refine ⟨prepared.keepsDirectories.trans stay, read, fun held elsewhere => ?_⟩
          refine stay.readText (prepared.readText held) fun {place content} otherLeads there => ?_
          rwa [unchanged]
          rintro rfl
          exact elsewhere ((stay.place? otherLeads).trans (stay.place? leads).symm)
      · cases written

end

end LiteratePages

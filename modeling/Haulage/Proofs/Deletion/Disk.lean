import Haulage.Deletion
import Haulage.Proofs.Files.Clearing
import Haulage.Proofs.Files.Passing
import Haulage.Proofs.Files.Spelling
import Haulage.Storage.Rehearsal

/-! What a deletion on disk takes away. A directory is cleared first and then looked for again by its
text: so it stays, empty, where the text leads through what was cleared; and where the text ends in a
slash behind a link, it is the directory behind the link that is cleared. -/
namespace Haulage.Deletion

open FileTree Files

variable {tree files : FileTree} {text : String} {parent location lies : Location} {entry : Entry}

/-! ## Removing a directory by its text -/

theorem perform_removeDirectory_of_unheld {fault : Files.Fault}
    (lost : tree.holder text = .error fault) :
    (removeDirectory text).perform tree = (.error fault, tree) := by
  rw [removeDirectory, Change.perform_get_bind, Change.perform_liftM_bind, lost]

theorem perform_removeDirectory_of_held {name : String}
    (held : tree.holder text = .ok (parent, some (.name name)))
    (short : name.utf8ByteSize ≤ Route.nameLimit) :
    (removeDirectory text).perform tree =
      match tree.get? (parent ++ [name]) with
      | none => (.error (.system .missing), tree)
      | some .directory => (removeAt (parent ++ [name])).perform tree
      | some _ => (.error (.system .notDirectory), tree) := by
  rw [removeDirectory, Change.perform_get_bind, Change.perform_liftM_bind, held]
  dsimp only
  rw [if_neg (Nat.not_lt_of_le short)]
  cases tree.get? (parent ++ [name]) with
  | none => rfl
  | some entry => cases entry <;> rfl

/-! ## The cases of a deletion -/

theorem get?_of_find {purpose : Purpose}
    (found : tree.find purpose text = .ok (location, entry)) (lone : entry ≠ .directory) :
    location ≠ [] ∧ tree.get? location = some entry := by
  obtain ⟨route, readable, leads⟩ := find_eq_ok_iff.mp found
  have seen : tree.get? location = some entry := by
    cases entry with
    | directory => exact absurd rfl lone
    | file identity => exact leads.seen
    | link target => exact leads.seen
  refine ⟨?_, seen⟩
  rintro rfl
  exact lone (Option.some.inj seen).symm

theorem removeFromDisk_of_missing (missed : tree.peek text = .error (.system .missing)) :
    (removeFromDisk text).perform tree = (.ok (.diskMissing text), tree) := by
  rw [removeFromDisk, Change.perform_get_bind, missed]
  rfl

theorem removeFromDisk_of_fault {fault : Files.Fault} (failed : tree.peek text = .error fault)
    (other : fault ≠ .system .missing) :
    (removeFromDisk text).perform tree = (.error fault, tree) := by
  rw [removeFromDisk, Change.perform_get_bind, failed]
  cases fault with
  | system failure =>
    cases failure with
    | missing => exact absurd rfl other
    | _ => rfl
  | _ => rfl

theorem removeFromDisk_of_lone (found : tree.peek text = .ok (location, entry))
    (lone : entry ≠ .directory) :
    (removeFromDisk text).perform tree = (.ok (.diskRemoved text), tree.erase location) := by
  have removed : (do removeAt location; pure (DeleteOutcome.diskRemoved text)).perform tree =
      (.ok (.diskRemoved text), tree.erase location) := by
    rw [Change.perform_bind, perform_removeAt_of_lone (get?_of_find found lone).2 lone]
    rfl
  rw [removeFromDisk, Change.perform_get_bind, found]
  cases entry with
  | directory => exact absurd rfl lone
  | file identity => exact removed
  | link target => exact removed

/-- A directory that is not there any more once it is cleared counts as removed. -/
theorem removeFromDisk_of_directory (found : tree.peek text = .ok (location, .directory)) :
    (removeFromDisk text).perform tree =
      match (removeDirectory text).perform (tree.emptied location) with
      | (.ok (), after) => (.ok (.diskRemoved text), after)
      | (.error fault, after) =>
        (if fault = .system .missing then .ok (.diskRemoved text) else .error fault, after) := by
  rw [removeFromDisk, Change.perform_get_bind, found]
  dsimp only
  rw [Change.perform_bind, perform_clear]
  dsimp only
  rw [Change.perform_bind, Change.perform_tryCatch]
  rcases (removeDirectory text).perform (tree.emptied location) with ⟨fault | ⟨⟩, after⟩
  · dsimp only
    by_cases missing : fault = .system .missing
    · rw [if_pos missing, if_pos missing]
      rfl
    · rw [if_neg missing, if_neg missing]
      rfl
  · rfl

/-! ## Texts that end in a name -/

/-- The text ends in a name, and slashes stand behind it only if it names a directory itself. -/
structure NamesEntry (files : FileTree) (text : String) : Prop where
  named : ∃ name, (Route.spell text).withoutClosing.steps.getLast? = some (.name name)
  slashed : text.toList.getLast? = some '/' →
    ∃ location, files.peek (PathText.trimmed text) = .ok (location, .directory)

theorem readable_of_peek (found : files.peek text = .ok (location, entry)) :
    Route.ofText text = .ok (Route.spell text) := by
  obtain ⟨route, readable, -⟩ := find_eq_ok_iff.mp found
  rwa [Route.eq_spell_of_ofText readable] at readable

theorem NamesEntry.peek_trimmed (names : NamesEntry files text)
    (found : files.peek text = .ok (location, entry)) :
    files.peek (PathText.trimmed text) = .ok (location, entry) := by
  by_cases slashed : text.toList.getLast? = some '/'
  · obtain ⟨name, named⟩ := names.named
    obtain ⟨other, trimmed⟩ := names.slashed slashed
    rw [Route.withoutClosing_spell_eq (trimmed_ne_empty trimmed)] at named
    have stepping : (Route.spell (PathText.trimmed text)).steps ≠ [] := by
      intro none
      rw [none] at named
      cases named
    have again := find_of_trimmed (readable_of_peek found) stepping trimmed nofun
    cases found.symm.trans again
    exact trimmed
  · rwa [PathText.trimmed_of_plain slashed]

/-- Once its contents are gone, a directory is removed if its text still leads to it. If not, something
on the way to it is missing, and the removal makes no more of that than of a directory that is gone. -/
private theorem perform_removeDirectory_emptied {name : String}
    (held : files.holder text = .ok (parent, some (.name name)))
    (short : name.utf8ByteSize ≤ Route.nameLimit)
    (seen : files.get? (parent ++ [name]) = some .directory) :
    (removeDirectory text).perform (files.emptied (parent ++ [name])) =
      if (files.emptied (parent ++ [name])).peek text = .ok (parent ++ [name], .directory) then
        (.ok (), files.pruned (parent ++ [name]))
      else (.error (.system .missing), files.emptied (parent ++ [name])) := by
  have kept : (files.emptied (parent ++ [name])).get? (parent ++ [name]) = some .directory := by
    rw [get?_emptied_self, seen]
  rcases holder_shrink held (emptied_grows files (parent ++ [name])) with still | missing
  · have found : (files.emptied (parent ++ [name])).peek text = .ok (parent ++ [name], .directory) :=
      find_of_holder still short kept nofun
    rw [if_pos found, perform_removeDirectory_of_held still short, kept]
    exact perform_removeAt (by simp) (locationsBelow_emptied files (parent ++ [name]))
  · rw [if_neg, perform_removeDirectory_of_unheld missing]
    intro found
    obtain ⟨-, named, -⟩ := holder_eq_ok_iff.mp held
    obtain ⟨other, left, still, -⟩ := exists_holder_of_find found named
    cases missing.symm.trans still

variable {σ : Type} {connector : Connector σ} {pages : Nat} {world : World σ} {destination : String}

theorem deleteRecursive_of_disk (onDisk : StoragePath.ofText destination = .disk text) :
    deleteRecursive connector pages destination world =
      let (result, files) := (removeFromDisk text).perform world.files
      some (result.mapError .disk, { world with files := files }) := by
  rw [deleteRecursive, onDisk]
  rfl

/-- What a deletion on disk does with a text that ends in a name. Nothing there is no failure, and
what cannot be looked at stays. A file or a link goes alone; a directory goes with all that lies
below it, but stays itself where its text no longer leads to it without its contents. -/
theorem deleteRecursive_named_entry (connector : Connector σ) (pages : Nat) {world : World σ}
    {destination text : String} (onDisk : StoragePath.ofText destination = .disk text)
    (names : NamesEntry world.files text) :
    let files := world.files
    let ended := deleteRecursive connector pages destination world
    (files.peek text = .error (.system .missing) → ended = some (.ok (.diskMissing text), world)) ∧
    (∀ fault, files.peek text = .error fault → fault ≠ .system .missing →
      ended = some (.error (.disk fault), world)) ∧
    (∀ location entry, files.peek text = .ok (location, entry) → entry ≠ .directory →
      ended = some (.ok (.diskRemoved text), { world with files := files.erase location })) ∧
    (∀ location, files.peek text = .ok (location, .directory) →
      (files.emptied location).peek text = .ok (location, .directory) →
      ended = some (.ok (.diskRemoved text),
        { world with files := files.pruned location })) ∧
    (∀ location, files.peek text = .ok (location, .directory) →
      (files.emptied location).peek text ≠ .ok (location, .directory) →
      ended = some (.ok (.diskRemoved text), { world with files := files.emptied location })) := by
  dsimp only
  rw [deleteRecursive_of_disk onDisk]
  have directory {location : Location}
      (found : world.files.peek text = .ok (location, .directory)) :
      (removeDirectory text).perform (world.files.emptied location) =
        if (world.files.emptied location).peek text = .ok (location, .directory) then
          (.ok (), world.files.pruned location)
        else (.error (.system .missing), world.files.emptied location) := by
    obtain ⟨name, named⟩ := names.named
    obtain ⟨parent, held, rfl, short, seen⟩ :=
      exists_holder_of_peek_trimmed (readable_of_peek found) (names.peek_trimmed found) named
    exact perform_removeDirectory_emptied held short seen
  refine ⟨fun missed => ?_, fun fault failed other => ?_, fun location entry found lone => ?_,
    fun location found still => ?_, fun location found lost => ?_⟩
  · rw [removeFromDisk_of_missing missed]
    rfl
  · rw [removeFromDisk_of_fault failed other]
    rfl
  · rw [removeFromDisk_of_lone found lone]
    rfl
  · rw [removeFromDisk_of_directory found, directory found, if_pos still]
    rfl
  · rw [removeFromDisk_of_directory found, directory found, if_neg lost]
    rfl

/-- A directory with one below it, and a service that is never asked. A way to the directory may lead
through the one below it. -/
def detour : World Rehearsal where
  files :=
    { entries := [(["d"], .directory), (["d", "sub"], .directory)]
      files := fun _ => blankFile
      start := [] }
  service := { connects := [], lists := [], deletes := [], puts := [] }

/-- Without that condition a directory does not go. -/
theorem directory_left_over_detour : ¬ ∀ (connector : Connector Rehearsal) (pages : Nat)
    (world : World Rehearsal) (destination text : String) (location : Location),
    StoragePath.ofText destination = .disk text → NamesEntry world.files text →
    world.files.peek text = .ok (location, .directory) →
    deleteRecursive connector pages destination world =
      some (.ok (.diskRemoved text), { world with files := world.files.pruned location }) := by
  intro removed
  have ended := removed Rehearsal.connector 1 detour "d/sub/../../d" "d/sub/../../d" ["d"] (by decide)
    ⟨⟨"d", by decide⟩, fun slashed => absurd slashed (by decide)⟩ (by decide +kernel)
  have left : ((deleteRecursive Rehearsal.connector 1 "d/sub/../../d" detour).map fun (_, after) =>
      after.files.get? ["d"]) = some (some .directory) := by decide +kernel
  have gone : (detour.files.pruned ["d"]).get? ["d"] = none := by
    rw [get?_pruned _ (by decide), if_pos List.prefix_rfl]
  rw [ended, Option.map_some] at left
  cases gone.symm.trans (Option.some.inj left)

theorem detour_left : StoragePath.ofText "d/sub/../../d" = .disk "d/sub/../../d" ∧
    NamesEntry detour.files "d/sub/../../d" ∧
    deleteRecursive Rehearsal.connector 1 "d/sub/../../d" detour =
      some (.ok (.diskRemoved "d/sub/../../d"), { detour with files := detour.files.emptied ["d"] }) ∧
    (detour.files.emptied ["d"]).get? ["d"] = some .directory := by
  have onDisk : StoragePath.ofText "d/sub/../../d" = .disk "d/sub/../../d" := by decide
  have names : NamesEntry detour.files "d/sub/../../d" :=
    ⟨⟨"d", by decide⟩, fun slashed => absurd slashed (by decide)⟩
  have ended := (deleteRecursive_named_entry Rehearsal.connector 1 onDisk names).2.2.2.2 ["d"]
    (by decide +kernel) (by decide +kernel)
  exact ⟨onDisk, names, ended, by decide⟩

/-! ## Texts that name a link -/

/-- A link under the last name stays in the way of removing a directory there. -/
private theorem perform_removeDirectory_of_link {name target : String}
    (held : files.holder text = .ok (parent, some (.name name)))
    (short : name.utf8ByteSize ≤ Route.nameLimit)
    (seen : files.get? (parent ++ [name]) = some (.link target)) (location : Location) :
    ∃ fault, (removeDirectory text).perform (files.emptied location) =
      (.error fault, files.emptied location) := by
  rcases holder_shrink held (emptied_grows files location) with still | missing
  · rw [perform_removeDirectory_of_held still short]
    rcases (emptied_grows files location).get?_eq_or seen with kept | gone
    · rw [kept]
      exact ⟨_, rfl⟩
    · rw [gone]
      exact ⟨_, rfl⟩
  · exact ⟨_, perform_removeDirectory_of_unheld missing⟩

private theorem exists_name_of_link {target : String}
    (found : files.peek (PathText.trimmed text) = .ok (lies, .link target)) :
    ∃ name, (Route.spell (PathText.trimmed text)).steps.getLast? = some (.name name) := by
  obtain ⟨route, readable, leads⟩ := find_eq_ok_iff.mp found
  cases Route.eq_spell_of_ofText readable
  exact leads.exists_name nofun

/-- The tree that a deletion on disk leaves where the text names a link. Alone the link goes. With
slashes behind it the text is one of a directory, and that is cleared if it is there. -/
theorem removeFromDisk_of_link {target : String}
    (found : files.peek (PathText.trimmed text) = .ok (lies, .link target)) :
    (text.toList.getLast? ≠ some '/' →
      (removeFromDisk text).perform files = (.ok (.diskRemoved text), files.erase lies)) ∧
    (text.toList.getLast? = some '/' →
      (∀ location, files.peek text = .ok (location, .directory) →
        ((removeFromDisk text).perform files).2 = files.emptied location) ∧
      ((∀ location, files.peek text ≠ .ok (location, .directory)) →
        ((removeFromDisk text).perform files).2 = files)) := by
  obtain ⟨name, named⟩ := exists_name_of_link found
  refine ⟨fun plain => ?_, fun slashed => ⟨fun location led => ?_, fun nowhere => ?_⟩⟩
  · rw [PathText.trimmed_of_plain plain] at found
    exact removeFromDisk_of_lone found nofun
  · rw [← Route.withoutClosing_spell_eq (trimmed_ne_empty found)] at named
    obtain ⟨parent, held, rfl, short, seen⟩ :=
      exists_holder_of_peek_trimmed (readable_of_peek led) found named
    obtain ⟨fault, refused⟩ := perform_removeDirectory_of_link held short seen location
    rw [removeFromDisk_of_directory led, refused]
  · match looked : files.peek text with
    | .error fault =>
      by_cases missing : fault = .system .missing
      · rw [missing] at looked
        rw [removeFromDisk_of_missing looked]
      · rw [removeFromDisk_of_fault looked missing]
    | .ok (location, entry) =>
      have stepping : (Route.spell (PathText.trimmed text)).steps ≠ [] := by
        intro none
        rw [none] at named
        cases named
      cases eq_directory_of_slash slashed stepping looked
      exact absurd looked (nowhere location)

/-- With slashes behind it the text leads on from the link to a directory that has something else
than the link below it. -/
def LeadsOn (files : FileTree) (text : String) (lies : Location) : Prop :=
  text.toList.getLast? = some '/' ∧ ∃ location, files.peek text = .ok (location, .directory) ∧
    ∃ other, other ≠ lies ∧ below location other = true ∧ files.get? other ≠ none

private theorem leadsOn_iff_of_peek (slashed : text.toList.getLast? = some '/')
    (led : files.peek text = .ok (location, .directory)) :
    LeadsOn files text lies ↔
      ¬ ∀ other, other ≠ lies → (files.emptied location).get? other = files.get? other := by
  constructor
  · rintro ⟨-, place, found, other, apart, lower, present⟩ spared
    cases led.symm.trans found
    have kept := spared other apart
    rw [get?_emptied, if_pos lower] at kept
    exact present kept.symm
  · intro lost
    obtain ⟨other, lost⟩ := not_forall.mp lost
    obtain ⟨apart, changed⟩ := Classical.not_imp.mp lost
    rw [get?_emptied] at changed
    by_cases lower : below location other = true
    · rw [if_pos lower] at changed
      exact ⟨slashed, location, led, other, apart, lower, Ne.symm changed⟩
    · rw [if_neg lower] at changed
      exact absurd rfl changed

/-- What a deletion on disk leaves where the text names a link: all but the link, unless slashes stand
behind the text and it leads on to a directory. Then it is the contents of the directory that go. -/
theorem deleteRecursive_named_link (connector : Connector σ) (pages : Nat) {world : World σ}
    {destination text target : String} (onDisk : StoragePath.ofText destination = .disk text)
    (found : world.files.peek (PathText.trimmed text) = .ok (lies, .link target)) :
    ∃ result files, deleteRecursive connector pages destination world =
        some (result, { world with files := files }) ∧
      (text.toList.getLast? ≠ some '/' →
        result = .ok (.diskRemoved text) ∧ files = world.files.erase lies) ∧
      (text.toList.getLast? = some '/' →
        (∀ location, world.files.peek text = .ok (location, .directory) →
          files = world.files.emptied location) ∧
        ((∀ location, world.files.peek text ≠ .ok (location, .directory)) →
          files = world.files)) ∧
      ((∀ other, other ≠ lies → files.get? other = world.files.get? other) ↔
        ¬ LeadsOn world.files text lies) := by
  obtain ⟨alone, slashed⟩ := removeFromDisk_of_link found
  rw [deleteRecursive_of_disk onDisk]
  match performed : (removeFromDisk text).perform world.files with
  | (result, files) =>
    rw [performed] at alone slashed
    refine ⟨_, files, rfl, fun plain => ?_, slashed, ?_⟩
    · cases alone plain
      exact ⟨rfl, rfl⟩
    · by_cases behind : text.toList.getLast? = some '/'
      · by_cases leads : ∃ location, world.files.peek text = .ok (location, .directory)
        · obtain ⟨location, led⟩ := leads
          have left : files = world.files.emptied location := (slashed behind).1 location led
          rw [left, leadsOn_iff_of_peek behind led, Classical.not_not]
        · have left : files = world.files :=
            (slashed behind).2 fun location led => leads ⟨location, led⟩
          rw [left]
          exact ⟨fun _ ⟨_, location, led, _⟩ => leads ⟨location, led⟩, fun _ _ _ => rfl⟩
      · have left : files = world.files.erase lies := (Prod.mk.inj (alone behind)).2
        rw [left]
        exact ⟨fun _ leadsOn => behind leadsOn.1, fun _ other apart => get?_erase_of_ne _ apart⟩

/-- A link to a directory that holds a file. -/
def linkedDirectory : World Rehearsal where
  files :=
    { entries := [(["keep"], .directory), (["keep", "in"], .file 0), (["link"], .link "keep")]
      files := fun _ => { blankFile with content := [107] }
      start := [] }
  service := { connects := [], lists := [], deletes := [], puts := [] }

/-- Not only the link may go. -/
theorem contents_lost_behind_link : ¬ ∀ (connector : Connector Rehearsal) (pages : Nat)
    (world : World Rehearsal) (destination text target : String) (lies : Location)
    (result : Except Fault DeleteOutcome) (after : World Rehearsal),
    StoragePath.ofText destination = .disk text →
    world.files.peek (PathText.trimmed text) = .ok (lies, .link target) →
    deleteRecursive connector pages destination world = some (result, after) →
    ∀ other, other ≠ lies → after.files.get? other = world.files.get? other := by
  intro spared
  have lost : ((deleteRecursive Rehearsal.connector 1 "link/" linkedDirectory).map fun (_, after) =>
      after.files.get? ["keep", "in"]) = some none := by decide +kernel
  obtain ⟨⟨result, after⟩, ended, gone⟩ := Option.map_eq_some_iff.mp lost
  have kept := spared Rehearsal.connector 1 linkedDirectory "link/" "link/" "keep" ["link"] result after
    (by decide) (by decide +kernel) ended ["keep", "in"] (by decide)
  cases gone.symm.trans kept

theorem linkedDirectory_emptied : StoragePath.ofText "link/" = .disk "link/" ∧
    linkedDirectory.files.peek (PathText.trimmed "link/") = .ok (["link"], .link "keep") ∧
    ∃ result, deleteRecursive Rehearsal.connector 1 "link/" linkedDirectory =
        some (result, { linkedDirectory with files := linkedDirectory.files.emptied ["keep"] }) ∧
      LeadsOn linkedDirectory.files "link/" ["link"] := by
  have onDisk : StoragePath.ofText "link/" = .disk "link/" := by decide
  have found : linkedDirectory.files.peek (PathText.trimmed "link/") = .ok (["link"], .link "keep") := by
    decide +kernel
  have led : linkedDirectory.files.peek "link/" = .ok (["keep"], .directory) := by decide +kernel
  obtain ⟨result, files, ended, -, slashed, -⟩ :=
    deleteRecursive_named_link Rehearsal.connector 1 onDisk found
  cases (slashed (by decide)).1 ["keep"] led
  exact ⟨onDisk, found, result, ended, by decide, ["keep"], led, ["keep", "in"], by decide, by decide,
    by decide⟩

end Haulage.Deletion

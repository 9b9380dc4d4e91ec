import Haulage.Proofs.Deletion.Disk

/-! What becomes of a directory by the text that it is deleted by. Every text that leads to it clears it.
By a name of its own the directory goes too, with or without slashes behind the name; a dot, two dots or
a link with a slash behind it make the deletion fail; and a text that leads through what was cleared
leaves the directory there, although the deletion counts as done. -/
namespace Haulage.Deletion

open FileTree Files

variable {tree files : FileTree} {text other : String} {parent location : Location}

/-- Without the contents of the directory there is nothing by the last step of the text any more. The
root is always there. -/
structure Mislaid (files : FileTree) (text : String) (location : Location) : Prop where
  stepping : (Route.spell text).steps ≠ []
  missed : (files.emptied location).peek (PathText.trimmed text) = .error (.system .missing)

/-- What removing a cleared directory by its text gives, and the tree after it. -/
inductive Removal (files : FileTree) (text : String) (location : Location) :
    Except Files.Fault Unit × FileTree → Prop where
  | removed (names : NamesEntry files text) (kept : ¬ Mislaid files text location) :
      Removal files text location (.ok (), files.pruned location)
  | mislaid (lost : Mislaid files text location) :
      Removal files text location (.error (.system .missing), files.emptied location)
  | refused {fault : Files.Fault} (other : ¬ NamesEntry files text)
      (kept : ¬ Mislaid files text location) (present : fault ≠ .system .missing) :
      Removal files text location (.error fault, files.emptied location)

/-! ## Whether the last step is still there -/

/-- What is there by the last step is not lost. -/
theorem not_mislaid_of_held {step : Step} {lies : Location} {entry : Entry}
    (held : (files.emptied location).holder text = .ok (parent, some step))
    (leads : ∀ links, Leads (files.emptied location) .peek links parent [step] (.taken lies entry)) :
    ¬ Mislaid files text location := by
  intro lost
  cases lost.missed.symm.trans (find_trimmed_of_holder held leads nofun)

/-- What led to the directory is lost if the last step is not there by itself any more. -/
theorem mislaid_of_absent {step : Step} (found : files.peek text = .ok (location, .directory))
    (ended : (Route.spell text).withoutClosing.steps.getLast? = some step)
    (absent : ∀ parent lies entry left,
      (files.emptied location).holder text = .ok (parent, some step) →
      ¬ Leads (files.emptied location) .peek left parent [step] (.taken lies entry)) :
    Mislaid files text location := by
  obtain ⟨parent, left, held, leads⟩ := exists_holder_of_find found ended
  obtain ⟨lies, entry, alone⟩ := leads.exists_first
  have before := find_trimmed_of_holder held alone nofun
  refine ⟨Route.steps_ne_nil ended, ?_⟩
  refine ((emptied_grows files location).find_eq_or before).resolve_left fun still => ?_
  obtain ⟨upper, fewer, holding, leading⟩ :=
    exists_holder_of_find_trimmed (readable_of_peek found) ended still
  exact absent upper lies entry fewer holding leading

/-! ## The removal by its cases -/

/-- A text that ends in no name is refused. -/
private theorem perform_removeDirectory_of_nameless {step : Option Step}
    (held : tree.holder text = .ok (parent, step)) (nameless : ∀ name, step ≠ some (.name name)) :
    ∃ fault, fault ≠ .system .missing ∧ (removeDirectory text).perform tree = (.error fault, tree) := by
  rw [removeDirectory, Change.perform_get_bind, Change.perform_liftM_bind, held]
  cases step with
  | none => exact ⟨.system .busy, by decide, rfl⟩
  | some last =>
    cases last with
    | here => exact ⟨.system .invalid, by decide, rfl⟩
    | up => exact ⟨.system .notEmpty, by decide, rfl⟩
    | closing => exact ⟨.system .invalid, by decide, rfl⟩
    | name name => exact absurd rfl (nameless name)

private theorem removal_of_root (found : files.peek text = .ok (location, .directory))
    (ended : (Route.spell text).withoutClosing.steps.getLast? = none) :
    Removal files text location ((removeDirectory text).perform (files.emptied location)) := by
  have held : (files.emptied location).holder text = .ok (_, none) :=
    holder_of_stepless (readable_of_peek found) ended
  obtain ⟨fault, present, refused⟩ := perform_removeDirectory_of_nameless held nofun
  rw [refused]
  refine .refused (fun names => ?_) (fun lost => lost.stepping ?_) present
  · obtain ⟨name, named⟩ := names.named
    cases ended.symm.trans named
  · rw [Route.steps_spell, List.getLast?_eq_none_iff.mp ended]
    simp

private theorem removal_of_nameless {step : Step}
    (ended : (Route.spell text).withoutClosing.steps.getLast? = some step)
    (nameless : ∀ name, step ≠ .name name)
    (held : (files.emptied location).holder text = .ok (parent, some step)) :
    Removal files text location ((removeDirectory text).perform (files.emptied location)) := by
  obtain ⟨fault, present, refused⟩ :=
    perform_removeDirectory_of_nameless held fun name same => nameless name (Option.some.inj same)
  rw [refused]
  refine .refused (fun names => ?_) ?_ present
  · obtain ⟨name, named⟩ := names.named
    exact nameless name (Option.some.inj (ended.symm.trans named))
  · cases step with
    | here => exact not_mislaid_of_held held fun _ => .here .arrived
    | up => exact not_mislaid_of_held held fun _ => .up .arrived
    | closing => exact not_mislaid_of_held held fun _ => .closing .arrived
    | name name => exact absurd rfl (nameless name)

/-- A directory is reached by a name at the end as the directory of that name, or behind a link. -/
theorem directory_or_link_of_name {links : Nat} {name : String}
    (leads : Leads tree .peek links parent (.name name :: Route.behind text)
      (.taken location .directory)) :
    name.utf8ByteSize ≤ Route.nameLimit ∧
      (location = parent ++ [name] ∧ tree.get? location = some .directory ∨
        ∃ target, tree.get? (parent ++ [name]) = some (.link target)) := by
  generalize behind : Route.behind text = rest at leads
  cases leads with
  | entered passable found later =>
    refine ⟨passable.2, .inl ?_⟩
    unfold Route.behind at behind
    split at behind
    · subst behind
      cases later.eq_of_closing
      exact ⟨rfl, found⟩
    · subst behind
      cases later
      exact ⟨rfl, found⟩
  | followed passable found => exact ⟨passable.2, .inr ⟨_, found⟩⟩

private theorem removal_of_name {name : String}
    (found : files.peek text = .ok (location, .directory))
    (named : (Route.spell text).withoutClosing.steps.getLast? = some (.name name))
    (before : files.holder text = .ok (parent, some (.name name)))
    (held : (files.emptied location).holder text = .ok (parent, some (.name name)))
    (leads : ∃ left, Leads files .peek left parent (.name name :: Route.behind text)
      (.taken location .directory)) :
    Removal files text location ((removeDirectory text).perform (files.emptied location)) := by
  obtain ⟨left, leads⟩ := leads
  obtain ⟨short, either⟩ := directory_or_link_of_name leads
  rw [perform_removeDirectory_of_held held short]
  rcases either with ⟨rfl, seen⟩ | ⟨target, seen⟩
  · have kept : (files.emptied (parent ++ [name])).get? (parent ++ [name]) = some .directory := by
      rw [get?_emptied_self, seen]
    rw [kept]
    dsimp only
    rw [perform_removeAt (by simp) (locationsBelow_emptied files (parent ++ [name]))]
    refine .removed ⟨⟨name, named⟩, fun _ => ⟨parent ++ [name], ?_⟩⟩ ?_
    · exact find_trimmed_of_holder before (fun _ => leads_of_last_name short seen) nofun
    · exact not_mislaid_of_held held fun _ => leads_of_last_name short kept
  · rcases (emptied_grows files location).get?_eq_or seen with kept | gone
    · rw [kept]
      refine .refused (fun names => ?_) ?_ nofun
      · have own := find_trimmed_of_holder before (fun _ => leads_of_last_name short seen) nofun
        cases own.symm.trans (names.peek_trimmed found)
      · exact not_mislaid_of_held held fun _ => leads_of_last_name short kept
    · rw [gone]
      refine .mislaid (mislaid_of_absent found named fun upper lies entry fewer holding leading => ?_)
      cases held.symm.trans holding
      obtain ⟨rfl, -, seen⟩ := leading.of_last_name
      cases gone.symm.trans seen

/-- Once it is cleared, a directory goes, stays unnoticed or stays with a failure, and the text tells
which. -/
theorem removal_of_directory (found : files.peek text = .ok (location, .directory)) :
    Removal files text location ((removeDirectory text).perform (files.emptied location)) := by
  match ended : (Route.spell text).withoutClosing.steps.getLast? with
  | none => exact removal_of_root found ended
  | some step =>
    obtain ⟨parent, left, before, leads⟩ := exists_holder_of_find found ended
    rcases holder_shrink before (emptied_grows files location) with held | missing
    · cases step with
      | name name => exact removal_of_name found ended before held ⟨left, leads⟩
      | here => exact removal_of_nameless ended nofun held
      | up => exact removal_of_nameless ended nofun held
      | closing => exact removal_of_nameless ended nofun held
    · rw [perform_removeDirectory_of_unheld missing]
      refine .mislaid (mislaid_of_absent found ended fun upper lies entry fewer holding => ?_)
      cases missing.symm.trans holding

/-! ## Two texts for one directory -/

/-- How the deletion of a directory by a text ends, and the tree that it leaves. -/
structure Deleted (files : FileTree) (text : String) (location : Location)
    (result : Except Fault DeleteOutcome) (after : FileTree) : Prop where
  mislaid : Mislaid files text location →
    result = .ok (.diskRemoved text) ∧ after = files.emptied location
  removed : ¬ Mislaid files text location → NamesEntry files text →
    result = .ok (.diskRemoved text) ∧ after = files.pruned location
  refused : ¬ Mislaid files text location → ¬ NamesEntry files text →
    (∃ fault, result = .error fault) ∧ after = files.emptied location

variable {σ : Type} {connector : Connector σ} {pages : Nat} {world : World σ}

theorem exists_deleted (connector : Connector σ) (pages : Nat)
    (onDisk : StoragePath.ofText text = .disk text)
    (found : world.files.peek text = .ok (location, .directory)) :
    ∃ result after,
      deleteRecursive connector pages text world = some (result, { world with files := after }) ∧
        Deleted world.files text location result after := by
  rw [deleteRecursive_of_disk onDisk, removeFromDisk_of_directory found]
  match performed : (removeDirectory text).perform (world.files.emptied location) with
  | (.ok (), after) =>
    have removal := removal_of_directory found
    rw [performed] at removal
    refine ⟨_, after, rfl, ?_⟩
    cases removal with
    | removed names kept =>
      exact ⟨fun lost => absurd lost kept, fun _ _ => ⟨rfl, rfl⟩, fun _ other => absurd names other⟩
  | (.error fault, after) =>
    have removal := removal_of_directory found
    rw [performed] at removal
    refine ⟨_, after, rfl, ?_⟩
    cases removal with
    | mislaid lost =>
      exact ⟨fun _ => ⟨rfl, rfl⟩, fun kept => absurd lost kept, fun kept => absurd lost kept⟩
    | refused other kept present =>
      rw [if_neg present]
      exact ⟨fun lost => absurd lost kept, fun _ names => absurd names other,
        fun _ _ => ⟨⟨_, rfl⟩, rfl⟩⟩

/-- A directory under a name of its own is there to go. -/
theorem NamesEntry.directory (names : NamesEntry files text)
    (found : files.peek text = .ok (location, .directory)) :
    location ≠ [] ∧ files.get? location = some .directory := by
  obtain ⟨name, named⟩ := names.named
  obtain ⟨parent, -, rfl, -, seen⟩ :=
    exists_holder_of_peek_trimmed (readable_of_peek found) (names.peek_trimmed found) named
  exact ⟨by simp, seen⟩

theorem pruned_ne_emptied (inside : location ≠ []) (seen : files.get? location = some .directory) :
    files.pruned location ≠ files.emptied location := by
  intro same
  have gone : (files.pruned location).get? location = none := by
    rw [get?_pruned _ inside, if_pos List.prefix_rfl]
  rw [same, get?_emptied_self, seen] at gone
  cases gone

namespace Deleted

variable {result : Except Fault DeleteOutcome} {after : FileTree}

theorem isOk_iff (deleted : Deleted files text location result after) :
    result.isOk = true ↔ Mislaid files text location ∨ NamesEntry files text := by
  by_cases lost : Mislaid files text location
  · rw [(deleted.mislaid lost).1]
    exact iff_of_true rfl (.inl lost)
  · by_cases names : NamesEntry files text
    · rw [(deleted.removed lost names).1]
      exact iff_of_true rfl (.inr names)
    · obtain ⟨⟨fault, failed⟩, -⟩ := deleted.refused lost names
      rw [failed]
      exact iff_of_false nofun fun either => either.elim lost names

theorem after_eq_or (deleted : Deleted files text location result after) :
    after = files.emptied location ∨ after = files.pruned location := by
  by_cases lost : Mislaid files text location
  · exact .inl (deleted.mislaid lost).2
  · by_cases names : NamesEntry files text
    · exact .inr (deleted.removed lost names).2
    · exact .inl (deleted.refused lost names).2

/-- The directory stays exactly where its text gets lost or does not end in a name of its own. -/
theorem after_eq_emptied_iff (deleted : Deleted files text location result after)
    (found : files.peek text = .ok (location, .directory)) :
    after = files.emptied location ↔ Mislaid files text location ∨ ¬ NamesEntry files text := by
  by_cases lost : Mislaid files text location
  · exact iff_of_true (deleted.mislaid lost).2 (.inl lost)
  · by_cases names : NamesEntry files text
    · obtain ⟨inside, seen⟩ := names.directory found
      rw [(deleted.removed lost names).2]
      exact iff_of_false (pruned_ne_emptied inside seen) fun either =>
        either.elim lost (absurd names)
    · exact iff_of_true (deleted.refused lost names).2 (.inr names)

end Deleted

/-- Two texts that lead to the same directory delete it alike, in success and in what they leave, exactly
if both of them get lost with its contents, or neither does and both or neither end in a name of
its own. -/
theorem deleteRecursive_respelled (connector : Connector σ) (pages : Nat)
    (onDisk : StoragePath.ofText text = .disk text)
    (otherOnDisk : StoragePath.ofText other = .disk other)
    (found : world.files.peek text = .ok (location, .directory))
    (otherFound : world.files.peek other = .ok (location, .directory)) :
    ∃ result after otherResult otherAfter,
      deleteRecursive connector pages text world = some (result, { world with files := after }) ∧
      deleteRecursive connector pages other world =
        some (otherResult, { world with files := otherAfter }) ∧
      Deleted world.files text location result after ∧
      Deleted world.files other location otherResult otherAfter ∧
      (result.isOk = otherResult.isOk ∧ after = otherAfter ↔
        (Mislaid world.files text location ↔ Mislaid world.files other location) ∧
          (Mislaid world.files text location ∨
            (NamesEntry world.files text ↔ NamesEntry world.files other))) := by
  obtain ⟨result, after, ended, deleted⟩ := exists_deleted connector pages onDisk found
  obtain ⟨otherResult, otherAfter, otherEnded, otherDeleted⟩ :=
    exists_deleted connector pages otherOnDisk otherFound
  refine ⟨result, after, otherResult, otherAfter, ended, otherEnded, deleted, otherDeleted, ?_⟩
  have left : after = otherAfter ↔
      (after = world.files.emptied location ↔ otherAfter = world.files.emptied location) := by
    constructor
    · rintro rfl
      exact Iff.rfl
    · intro alike
      rcases deleted.after_eq_or with stays | goes
      · rw [stays, alike.mp stays]
      · rcases otherDeleted.after_eq_or with otherStays | otherGoes
        · rw [otherStays, alike.mpr otherStays]
        · rw [goes, otherGoes]
  rw [left, Bool.eq_iff_iff, deleted.isOk_iff, otherDeleted.isOk_iff,
    deleted.after_eq_emptied_iff found, otherDeleted.after_eq_emptied_iff otherFound]
  -- success and the tree now speak of the same four propositions
  grind

/-- Not every text for a directory deletes it as any other does. -/
theorem directory_left_by_dot : ¬ ∀ (connector : Connector Rehearsal) (pages : Nat)
    (world : World Rehearsal) (text other : String) (location : Location),
    StoragePath.ofText text = .disk text → StoragePath.ofText other = .disk other →
    world.files.peek text = .ok (location, .directory) →
    world.files.peek other = .ok (location, .directory) →
    ∃ result after otherResult otherAfter,
      deleteRecursive connector pages text world = some (result, after) ∧
      deleteRecursive connector pages other world = some (otherResult, otherAfter) ∧
      result.isOk = otherResult.isOk ∧ after.files = otherAfter.files := by
  intro alike
  obtain ⟨result, after, otherResult, otherAfter, ended, otherEnded, both, -⟩ :=
    alike Rehearsal.connector 1 detour "d" "d/." ["d"] (by decide) (by decide) (by decide +kernel)
      (by decide +kernel)
  have finished : (deleteRecursive Rehearsal.connector 1 "d" detour).map (·.1.isOk) = some true := by
    decide +kernel
  have refused : (deleteRecursive Rehearsal.connector 1 "d/." detour).map (·.1.isOk) = some false := by
    decide +kernel
  rw [ended, Option.map_some, Option.some.injEq] at finished
  rw [otherEnded, Option.map_some, Option.some.injEq] at refused
  rw [finished, refused] at both
  cases both

/-- A slash behind the name makes no difference, a dot does. -/
theorem detour_respelled :
    (∃ result after otherResult otherAfter,
      deleteRecursive Rehearsal.connector 1 "d" detour =
        some (result, { detour with files := after }) ∧
      deleteRecursive Rehearsal.connector 1 "./d/" detour =
        some (otherResult, { detour with files := otherAfter }) ∧
      result.isOk = otherResult.isOk ∧ after = otherAfter) ∧
    ∃ result after otherResult otherAfter,
      deleteRecursive Rehearsal.connector 1 "d" detour =
        some (result, { detour with files := after }) ∧
      deleteRecursive Rehearsal.connector 1 "d/." detour =
        some (otherResult, { detour with files := otherAfter }) ∧
      ¬ (result.isOk = otherResult.isOk ∧ after = otherAfter) := by
  have onDisk : StoragePath.ofText "d" = .disk "d" := by decide
  have found : detour.files.peek "d" = .ok (["d"], .directory) := by decide +kernel
  have names : NamesEntry detour.files "d" :=
    ⟨⟨"d", by decide⟩, fun slashed => absurd slashed (by decide)⟩
  have kept : ¬ Mislaid detour.files "d" ["d"] := fun lost => absurd lost.missed (by decide +kernel)
  constructor
  · have slashed : NamesEntry detour.files "./d/" :=
      ⟨⟨"d", by decide⟩, fun _ => ⟨["d"], by decide +kernel⟩⟩
    have still : ¬ Mislaid detour.files "./d/" ["d"] := fun lost =>
      absurd lost.missed (by decide +kernel)
    obtain ⟨result, after, otherResult, otherAfter, ended, otherEnded, -, -, alike⟩ :=
      @deleteRecursive_respelled "d" "./d/" ["d"] Rehearsal detour Rehearsal.connector 1 onDisk
        (by decide) found (by decide +kernel)
    exact ⟨result, after, otherResult, otherAfter, ended, otherEnded,
      alike.mpr ⟨iff_of_false kept still, .inr (iff_of_true names slashed)⟩⟩
  · have dotted : ¬ NamesEntry detour.files "d/." := by
      intro impossible
      obtain ⟨name, named⟩ := impossible.named
      have ended : (Route.spell "d/.").withoutClosing.steps.getLast? = some .here := by decide
      cases ended.symm.trans named
    obtain ⟨result, after, otherResult, otherAfter, ended, otherEnded, -, -, alike⟩ :=
      @deleteRecursive_respelled "d" "d/." ["d"] Rehearsal detour Rehearsal.connector 1 onDisk
        (by decide) found (by decide +kernel)
    refine ⟨result, after, otherResult, otherAfter, ended, otherEnded, fun same => ?_⟩
    rcases (alike.mp same).2 with lost | both
    · exact kept lost
    · exact dotted (both.mp names)

end Haulage.Deletion

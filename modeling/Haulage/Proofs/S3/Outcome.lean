import Haulage.Proofs.S3.Rounds
import Mathlib.Data.List.TakeWhile

/-! What rounds come to: the first exchange that is denied is the last and makes them fail, what is
named is what was listed, and the keys that are counted are those that the replies say are gone. -/
namespace Haulage.S3

open Deletion

/-- What comes of exchanges: a success counts what the replies say is gone, and the first exchange that
is denied is the last. -/
inductive Outcome : List Exchange → Except Fault Nat → Prop where
  | granted (all : ∀ exchange ∈ exchanges, exchange.granted = true) :
      Outcome exchanges (.ok (exchanges.flatMap Exchange.echoedKeys).length)
  | denied (earlier : ∀ exchange ∈ exchanges, exchange.granted = true)
      (denied : last.granted = false) :
      Outcome (exchanges ++ [last]) (.error (.remote cause))

variable {bucket : String} {groups : List (List String)} {exchanges rest : List Exchange}
  {listing exchange : Exchange} {count : Except Fault Nat} {fault : Fault} {gone : Nat}

theorem Outcome.ok_iff (outcome : Outcome exchanges count) :
    (∃ gone, count = .ok gone) ↔ ∀ exchange ∈ exchanges, exchange.granted = true := by
  cases outcome with
  | granted all => exact iff_of_true ⟨_, rfl⟩ all
  | denied _ denied =>
    refine iff_of_false nofun fun all => ?_
    rw [all _ (List.mem_append_right _ List.mem_cons_self)] at denied
    cases denied

theorem Outcome.append (outcome : Outcome rest count)
    (granted : ∀ exchange ∈ exchanges, exchange.granted = true) :
    Outcome (exchanges ++ rest)
      (count.map ((exchanges.flatMap Exchange.echoedKeys).length + ·)) := by
  cases outcome with
  | granted all =>
    have whole := Outcome.granted (List.forall_mem_append.mpr ⟨granted, all⟩)
    rwa [List.flatMap_append, List.length_append] at whole
  | denied earlier denied =>
    rw [← List.append_assoc]
    exact .denied (List.forall_mem_append.mpr ⟨granted, earlier⟩) denied

namespace Removals

theorem outcome (removal : Removals bucket groups exchanges count) : Outcome exchanges count := by
  induction removal with
  | done => exact .granted (List.forall_mem_nil _)
  | refused _ denied =>
    rw [← List.nil_append [_]]
    exact .denied (List.forall_mem_nil _) denied
  | removed _ granted _ ih =>
    have whole := ih.append (List.forall_mem_singleton.mpr granted)
    rwa [List.flatMap_singleton] at whole

theorem isDeletion (removal : Removals bucket groups exchanges count) :
    ∀ exchange ∈ exchanges, exchange.isDeletion = true := by
  induction removal with
  | done => exact List.forall_mem_nil _
  | refused asked _ =>
    exact List.forall_mem_singleton.mpr (by rw [Exchange.isDeletion, asked])
  | removed asked _ _ ih =>
    exact List.forall_mem_cons.mpr ⟨by rw [Exchange.isDeletion, asked], ih⟩

/-- The groups are named one after the other. -/
theorem named_prefix (removal : Removals bucket groups exchanges count) :
    exchanges.flatMap Exchange.namedKeys <+: groups.flatten := by
  induction removal with
  | done => exact List.prefix_rfl
  | refused asked _ =>
    rw [List.flatMap_singleton, Exchange.namedKeys, asked, List.flatten_cons]
    exact List.prefix_append _ _
  | removed asked _ _ ih =>
    rw [List.flatMap_cons, Exchange.namedKeys, asked, List.flatten_cons]
    exact (List.prefix_append_right_inj _).mpr ih

theorem named_eq_of_ok (removal : Removals bucket groups exchanges (.ok gone)) :
    exchanges.flatMap Exchange.namedKeys = groups.flatten := by
  generalize same : Except.ok gone = count at removal
  induction removal generalizing gone with
  | done => rfl
  | refused _ _ => cases same
  | removed asked _ _ ih =>
    obtain ⟨later, rfl⟩ := (exists_map_ok_iff _ _).mp ⟨gone, same.symm⟩
    rw [List.flatMap_cons, Exchange.namedKeys, asked, List.flatten_cons, ih rfl]

/-- A single group is named whether or not it is removed. -/
theorem named_eq_of_single (removal : Removals bucket groups exchanges count)
    (single : groups.length ≤ 1) : exchanges.flatMap Exchange.namedKeys = groups.flatten := by
  cases removal with
  | done => rfl
  | refused asked _ =>
    have none := List.eq_nil_of_length_eq_zero (Nat.le_zero.mp (Nat.le_of_succ_le_succ single))
    rw [none, List.flatMap_singleton, Exchange.namedKeys, asked, List.flatten_singleton]
  | removed asked _ later =>
    have none := List.eq_nil_of_length_eq_zero (Nat.le_zero.mp (Nat.le_of_succ_le_succ single))
    subst none
    cases later with
    | done => rw [List.flatMap_singleton, Exchange.namedKeys, asked, List.flatten_singleton]

end Removals

/-- The deletions between a listing and the next one name keys of the page in its order, and all of
them if the page fits into one batch or none of the deletions is denied. -/
structure NamesListed (listing : Exchange) (rest : List Exchange) : Prop where
  ordered : (rest.takeWhile Exchange.isDeletion).flatMap Exchange.namedKeys <+: listing.listedKeys
  whole : listing.listedKeys.length ≤ batchLimit ∨
      (∀ exchange ∈ rest.takeWhile Exchange.isDeletion, exchange.granted = true) →
    (rest.takeWhile Exchange.isDeletion).flatMap Exchange.namedKeys = listing.listedKeys

/-- Listings, each with the deletions of its keys behind it, and nothing else. -/
structure Orderly (log : List Exchange) : Prop where
  first : ∀ exchange ∈ log.head?, exchange.isListing = true
  only : ∀ exchange ∈ log, exchange.isListing = true ∨ exchange.isDeletion = true
  named : ∀ listing rest, listing.isListing = true → listing :: rest <:+ log →
    NamesListed listing rest

namespace Exchange

theorem exists_list (lists : listing.isListing = true) :
    ∃ bucket keyPrefix maxKeys token, listing.sent.request = .list bucket keyPrefix maxKeys token := by
  unfold isListing at lists
  split at lists
  · exact ⟨_, _, _, _, ‹_›⟩
  · cases lists

theorem exists_delete (deletes : exchange.isDeletion = true) :
    ∃ bucket keys, exchange.sent.request = .delete bucket keys := by
  unfold isDeletion at deletes
  split at deletes
  · exact ⟨_, _, ‹_›⟩
  · cases deletes

theorem not_isDeletion (lists : listing.isListing = true) : listing.isDeletion = false := by
  obtain ⟨_, _, _, _, asked⟩ := exists_list lists
  rw [isDeletion, asked]

theorem namedKeys_eq_nil (lists : listing.isListing = true) : listing.namedKeys = [] := by
  obtain ⟨_, _, _, _, asked⟩ := exists_list lists
  rw [namedKeys, asked]

theorem echoedKeys_eq_nil (lists : listing.isListing = true) : listing.echoedKeys = [] := by
  obtain ⟨_, _, _, _, asked⟩ := exists_list lists
  rw [echoedKeys, asked]

theorem listedKeys_eq_nil (deletes : exchange.isDeletion = true) : exchange.listedKeys = [] := by
  obtain ⟨_, _, asked⟩ := exists_delete deletes
  rw [listedKeys, asked]

theorem listedKeys_eq_nil_of_denied (lists : listing.isListing = true)
    (denied : listing.granted = false) : listing.listedKeys = [] := by
  obtain ⟨_, _, _, _, asked⟩ := exists_list lists
  rw [granted, asked, Request.grantedBy_list] at denied
  rw [listedKeys, asked]
  cases told : listing.reply with
  | listed _ _ _ =>
    rw [told] at denied
    cases denied
  | failed _ | deleted _ _ | stored _ | identified _ | assumed _ => rfl

end Exchange

/-- A listing says of no key that it is gone, so it adds nothing to the count. -/
theorem Outcome.behind_listing (outcome : Outcome exchanges count)
    (lists : listing.isListing = true) (granted : listing.granted = true) :
    Outcome (listing :: exchanges) count := by
  have whole := outcome.append (List.forall_mem_singleton.mpr granted)
  rw [List.flatMap_singleton, listing.echoedKeys_eq_nil lists] at whole
  cases count with
  | error _ => exact whole
  | ok gone =>
    rw [Except.map, List.length_nil, Nat.zero_add] at whole
    exact whole

namespace Rounds

theorem outcome (rounds : Rounds bucket exchanges count) : Outcome exchanges count := by
  induction rounds with
  | unlisted _ denied =>
    rw [← List.nil_append [_]]
    exact .denied (List.forall_mem_nil _) denied
  | stuck lists granted removal | last lists granted removal =>
    exact removal.outcome.behind_listing lists granted
  | more lists granted removal _ ih =>
    obtain ⟨all⟩ := removal.outcome
    exact (ih.append all).behind_listing lists granted

/-- Whatever follows the deletions of a page begins with a listing. -/
theorem takeWhile_eq (removal : Removals bucket groups exchanges (.ok gone))
    (later : Rounds bucket rest count) :
    (exchanges ++ rest).takeWhile Exchange.isDeletion = exchanges := by
  have stops : rest.takeWhile Exchange.isDeletion = [] := by
    cases later with
    | unlisted lists _ | stuck lists _ _ | last lists _ _ | more lists _ _ _ =>
      exact List.takeWhile_cons_of_neg (by rw [Exchange.not_isDeletion lists]; exact nofun)
  rw [List.takeWhile_append_of_pos removal.isDeletion, stops, List.append_nil]

end Rounds

/-- The deletions of a page name every key if they are all granted or the page fits into a batch. -/
theorem Removals.namesListed (removal : Removals bucket (batches listing.listedKeys) exchanges count)
    (same : rest.takeWhile Exchange.isDeletion = exchanges) : NamesListed listing rest := by
  have named := removal.named_prefix
  rw [flatten_batches] at named
  refine ⟨by rw [same]; exact named, ?_⟩
  rw [same]
  rintro (short | granted)
  · rw [removal.named_eq_of_single (length_batches_of_short short), flatten_batches]
  · obtain ⟨gone, rfl⟩ := removal.outcome.ok_iff.mpr granted
    rw [removal.named_eq_of_ok, flatten_batches]

/-- Among deletions no listing begins. -/
theorem suffix_of_suffix_append (lists : listing.isListing = true)
    (deletions : ∀ exchange ∈ exchanges, exchange.isDeletion = true) {more : List Exchange}
    (suffix : listing :: rest <:+ exchanges ++ more) : listing :: rest <:+ more := by
  induction exchanges with
  | nil => exact suffix
  | cons first others ih =>
    obtain ⟨deletes, deletions⟩ := List.forall_mem_cons.mp deletions
    rcases List.suffix_cons_iff.mp suffix with same | later
    · cases same
      rw [Exchange.not_isDeletion lists] at deletes
      cases deletes
    · exact ih deletions later

theorem not_suffix_of_deletions (lists : listing.isListing = true)
    (deletions : ∀ exchange ∈ exchanges, exchange.isDeletion = true) :
    ¬ listing :: rest <:+ exchanges := by
  intro suffix
  have nothing := suffix_of_suffix_append lists deletions (by rwa [List.append_nil])
  cases List.suffix_nil.mp nothing

/-- With all its deletions granted, a page is named as it is listed. -/
theorem Removals.named_eq_listed (lists : listing.isListing = true)
    (removal : Removals bucket (batches listing.listedKeys) exchanges (.ok gone)) :
    (listing :: exchanges).flatMap Exchange.namedKeys =
      (listing :: exchanges).flatMap Exchange.listedKeys := by
  have unlisted : exchanges.flatMap Exchange.listedKeys = [] :=
    List.flatMap_eq_nil_iff.mpr fun exchange member =>
      exchange.listedKeys_eq_nil (removal.isDeletion exchange member)
  rw [List.flatMap_cons, List.flatMap_cons, listing.namedKeys_eq_nil lists,
    removal.named_eq_of_ok, flatten_batches, unlisted, List.append_nil, List.nil_append]

namespace Rounds

/-- Whatever listing there is, the deletions behind it name its keys. -/
theorem namesListed (rounds : Rounds bucket exchanges count) (lists : listing.isListing = true)
    (suffix : listing :: rest <:+ exchanges) : NamesListed listing rest := by
  -- in each round the listing is the first exchange or belongs to a later round
  induction rounds with
  | unlisted _ denied =>
    rcases List.suffix_cons_iff.mp suffix with same | later
    · cases same
      have none := Exchange.listedKeys_eq_nil_of_denied lists denied
      exact ⟨List.nil_prefix, fun _ => none.symm⟩
    · cases List.suffix_nil.mp later
  | stuck _ _ removal | last _ _ removal =>
    rcases List.suffix_cons_iff.mp suffix with same | later
    · cases same
      exact removal.namesListed (List.takeWhile_eq_self_iff.mpr removal.isDeletion)
    · exact absurd later (not_suffix_of_deletions lists removal.isDeletion)
  | more _ _ removal later ih =>
    rcases List.suffix_cons_iff.mp suffix with same | within
    · cases same
      exact removal.namesListed (takeWhile_eq removal later)
    · exact ih (suffix_of_suffix_append lists removal.isDeletion within)

theorem lists_or_deletes (rounds : Rounds bucket exchanges count) :
    ∀ exchange ∈ exchanges, exchange.isListing = true ∨ exchange.isDeletion = true := by
  induction rounds with
  | unlisted lists _ => exact List.forall_mem_singleton.mpr (.inl lists)
  | stuck lists _ removal | last lists _ removal =>
    exact List.forall_mem_cons.mpr
      ⟨.inl lists, fun exchange member => .inr (removal.isDeletion exchange member)⟩
  | more lists _ removal _ ih =>
    refine List.forall_mem_cons.mpr ⟨.inl lists, List.forall_mem_append.mpr ⟨?_, ih⟩⟩
    exact fun exchange member => .inr (removal.isDeletion exchange member)

theorem orderly (rounds : Rounds bucket exchanges count) : Orderly exchanges where
  first := by
    cases rounds with
    | unlisted lists _ | stuck lists _ _ | last lists _ _ | more lists _ _ _ =>
      rintro _ ⟨rfl⟩
      exact lists
  only := rounds.lists_or_deletes
  named _ _ lists := rounds.namesListed lists

/-- If all is granted, what is named is what is listed. -/
theorem named_eq_listed (rounds : Rounds bucket exchanges (.ok gone)) :
    exchanges.flatMap Exchange.namedKeys = exchanges.flatMap Exchange.listedKeys := by
  generalize same : Except.ok gone = count at rounds
  induction rounds generalizing gone with
  | unlisted _ _ | stuck _ _ _ => cases same
  | last lists _ removal => exact removal.named_eq_listed lists
  | more lists _ removal _ ih =>
    obtain ⟨later, rfl⟩ := (exists_map_ok_iff _ _).mp ⟨gone, same.symm⟩
    rw [← List.cons_append, List.flatMap_append, List.flatMap_append,
      removal.named_eq_listed lists, ih rfl]

end Rounds

end Haulage.S3

import Haulage.Proofs.Deletion.Trace
import Haulage.Proofs.S3.Exchange

/-! A remote deletion over a service, as the exchanges that it makes: round after round a listing and
then the deletions of what it brought. A round in which anything is denied is the last one. -/
namespace Haulage.S3

open Deletion

/-! ## What an exchange is about -/

namespace Exchange

def isListing (exchange : Exchange) : Bool :=
  match exchange.sent.request with
  | .list _ _ _ _ => true
  | _ => false

def isDeletion (exchange : Exchange) : Bool :=
  match exchange.sent.request with
  | .delete _ _ => true
  | _ => false

/-- The keys of the page that a listing brings; entries without a key count for nothing. -/
def listedKeys (exchange : Exchange) : List String :=
  match exchange.sent.request, exchange.reply with
  | .list _ _ _ _, .listed objects _ _ => objects.filterMap (·.key)
  | _, _ => []

/-- The keys that a deletion asks for. -/
def namedKeys (exchange : Exchange) : List String :=
  match exchange.sent.request with
  | .delete _ keys => keys
  | _ => []

/-- The keys that the reply to a deletion says are gone; entries without a key count for nothing. -/
def echoedKeys (exchange : Exchange) : List String :=
  match exchange.sent.request, exchange.reply with
  | .delete _ _, .deleted keys _ => keys.filterMap id
  | _, _ => []

end Exchange

/-- The request for a page. -/
def listRequest (path : RemotePath) (options : ListOptions) : Request :=
  .list path.bucket (if path.key = "" then none else some path.key) options.maxKeys options.token

theorem Client.keys_describe (objects : List ListedObject) :
    (objects.filterMap describe?).map (·.key) = objects.filterMap (·.key) := by
  rw [List.map_filterMap]
  congr 1
  funext object
  obtain ⟨key, _, _, _⟩ := object
  cases key <;> rfl

namespace Exchange

variable {exchange : Exchange}

theorem echoedKeys_eq {bucket : String} {keys gone : List String}
    (asked : exchange.sent.request = .delete bucket keys)
    (taken : exchange.reply.gone? = some gone) : exchange.echoedKeys = gone := by
  unfold echoedKeys
  rw [asked]
  match told : exchange.reply with
  | .deleted echoed [] =>
    rw [told] at taken
    exact Option.some.inj taken
  | .deleted _ (_ :: _) | .failed _ | .listed _ _ _ | .stored _ | .identified _ | .assumed _ =>
    rw [told] at taken
    cases taken

theorem listedKeys_eq {path : RemotePath} {options : ListOptions} {page : Page}
    (asked : exchange.sent.request = listRequest path options)
    (taken : exchange.reply.page? = some page) : exchange.listedKeys = page.keys := by
  unfold listedKeys
  rw [asked, listRequest]
  match told : exchange.reply with
  | .listed objects _ _ =>
    rw [told] at taken
    cases taken
    exact (Client.keys_describe objects).symm
  | .deleted _ _ | .failed _ | .stored _ | .identified _ | .assumed _ =>
    rw [told] at taken
    cases taken

end Exchange

variable {σ : Type} {service : Service σ} {client : Client} {path : RemotePath} {bucket : String}
  {state : σ} {log : List Exchange} {after : σ × List Exchange}

namespace Client

theorem answered_of_list {options : ListOptions} {result : Except Fault Page}
    (answered : (client.store service.logged).list path options (state, log) = (result, after)) :
    ∃ exchanges, after.2 = log ++ exchanges ∧
      Answered service .remote Reply.page? (client.build? (listRequest path options)) state exchanges
        result after.1 := by
  unfold store at answered
  dsimp only at answered
  generalize asked : client.ask service.logged _ (state, log) = reached at answered
  obtain ⟨taken, next⟩ := reached
  obtain ⟨exchanges, grown, heard⟩ := heard_of_ask asked
  cases heard with
  | unsent impossible =>
    cases answered
    exact ⟨[], grown, .unsent impossible⟩
  | @replied sent reply _ possible replied =>
    cases reply with
    | listed objects truncated token =>
      cases answered
      exact ⟨_, grown, .granted possible replied rfl⟩
    | _ =>
      cases answered
      exact ⟨_, grown, .denied possible replied rfl⟩

theorem answered_of_delete {keys : List String} {result : Except Fault (List String)}
    (nonempty : keys ≠ [])
    (answered : (client.store service.logged).delete bucket keys (state, log) = (result, after)) :
    ∃ exchanges, after.2 = log ++ exchanges ∧
      Answered service .remote Reply.gone? (client.build? (.delete bucket keys)) state exchanges
        result after.1 := by
  unfold store at answered
  dsimp only at answered
  rw [if_neg nonempty] at answered
  generalize asked : client.ask service.logged _ (state, log) = reached at answered
  obtain ⟨taken, next⟩ := reached
  obtain ⟨exchanges, grown, heard⟩ := heard_of_ask asked
  cases heard with
  | unsent impossible =>
    cases answered
    exact ⟨[], grown, .unsent impossible⟩
  | @replied sent reply _ possible replied =>
    cases reply with
    | deleted gone refusals =>
      cases refusals with
      | nil =>
        cases answered
        exact ⟨_, grown, .granted possible replied rfl⟩
      | cons first others =>
        cases answered
        exact ⟨_, grown, .denied possible replied rfl⟩
    | _ =>
      cases answered
      exact ⟨_, grown, .denied possible replied rfl⟩

end Client

/-! ## Rounds -/

/-- Deletions of one group of keys after the other, up to the first that is denied. -/
inductive Removals (bucket : String) :
    List (List String) → List Exchange → Except Fault Nat → Prop where
  | done : Removals bucket [] [] (.ok 0)
  | refused (asked : deletion.sent.request = .delete bucket keys)
      (denied : deletion.granted = false) :
      Removals bucket (keys :: groups) [deletion] (.error (.remote cause))
  | removed (asked : deletion.sent.request = .delete bucket keys)
      (granted : deletion.granted = true) (later : Removals bucket groups exchanges count) :
      Removals bucket (keys :: groups) (deletion :: exchanges)
        (count.map (deletion.echoedKeys.length + ·))

/-- Listings, each with the deletions of its keys, up to the first page that leads no further or the
first exchange that is denied. -/
inductive Rounds (bucket : String) : List Exchange → Except Fault Nat → Prop where
  | unlisted (lists : listing.isListing = true) (denied : listing.granted = false) :
      Rounds bucket [listing] (.error (.remote cause))
  | stuck (lists : listing.isListing = true) (granted : listing.granted = true)
      (removal : Removals bucket (batches listing.listedKeys) exchanges (.error fault)) :
      Rounds bucket (listing :: exchanges) (.error fault)
  | last (lists : listing.isListing = true) (granted : listing.granted = true)
      (removal : Removals bucket (batches listing.listedKeys) exchanges (.ok gone)) :
      Rounds bucket (listing :: exchanges) (.ok gone)
  | more (lists : listing.isListing = true) (granted : listing.granted = true)
      (removal : Removals bucket (batches listing.listedKeys) exchanges (.ok gone))
      (later : Rounds bucket rest count) :
      Rounds bucket (listing :: (exchanges ++ rest)) (count.map (gone + ·))

/-! ## From runs to rounds -/

section Runs

variable {token : Option String} {groups : List (List String)} {keys : List String}
  {options : ListOptions} {request : Request} {start next final : σ × List Exchange}
  {events : List Event} {count : Except Fault Nat} {fault : Fault}

namespace Client

private theorem asked_of_build? (storing : request.forTokens = false) :
    ∀ sent, client.build? request = some sent → sent.request = request :=
  fun _ built => (build?_sends built storing).1

theorem refused_of_delete (nonempty : keys ≠ []) (reaches : client.Reaches bucket)
    (answered : (client.store service.logged).delete bucket keys start = (.error fault, next)) :
    ∃ exchange cause, next.2 = start.2 ++ [exchange] ∧
      exchange.sent.request = .delete bucket keys ∧ exchange.granted = false ∧
      fault = .remote cause := by
  obtain ⟨exchanges, grown, deletion⟩ := answered_of_delete nonempty answered
  obtain ⟨exchange, cause, rfl, asked, denied, rfl⟩ := deletion.denied_of_error
    (asked_of_build? rfl) (Request.grantedBy_delete bucket keys) (reaches _ rfl)
  exact ⟨exchange, cause, grown, asked, denied, rfl⟩

theorem removed_of_delete {gone : List String} (nonempty : keys ≠ [])
    (answered : (client.store service.logged).delete bucket keys start = (.ok gone, next)) :
    ∃ exchange, next.2 = start.2 ++ [exchange] ∧ exchange.sent.request = .delete bucket keys ∧
      exchange.granted = true ∧ exchange.echoedKeys = gone := by
  obtain ⟨exchanges, grown, deletion⟩ := answered_of_delete nonempty answered
  obtain ⟨exchange, rfl, asked, granted, taken⟩ := deletion.granted_of_ok
    (asked_of_build? rfl) (Request.grantedBy_delete bucket keys)
  exact ⟨exchange, grown, asked, granted, exchange.echoedKeys_eq asked taken⟩

theorem refused_of_list (reaches : client.Reaches path.bucket)
    (answered : (client.store service.logged).list path options start = (.error fault, next)) :
    ∃ exchange cause, next.2 = start.2 ++ [exchange] ∧ exchange.isListing = true ∧
      exchange.granted = false ∧ fault = .remote cause := by
  obtain ⟨exchanges, grown, listing⟩ := answered_of_list answered
  obtain ⟨exchange, cause, rfl, asked, denied, rfl⟩ := listing.denied_of_error
    (asked_of_build? rfl) (Request.grantedBy_list _ _ _ _) (reaches _ rfl)
  exact ⟨exchange, cause, grown, by rw [Exchange.isListing, asked], denied, rfl⟩

theorem listed_of_list {page : Page}
    (answered : (client.store service.logged).list path options start = (.ok page, next)) :
    ∃ exchange, next.2 = start.2 ++ [exchange] ∧ exchange.isListing = true ∧
      exchange.granted = true ∧ exchange.listedKeys = page.keys := by
  obtain ⟨exchanges, grown, listing⟩ := answered_of_list answered
  obtain ⟨exchange, rfl, asked, granted, taken⟩ := listing.granted_of_ok
    (asked_of_build? rfl) (Request.grantedBy_list _ _ _ _)
  exact ⟨exchange, grown, by rw [Exchange.isListing, asked], granted,
    exchange.listedKeys_eq asked taken⟩

end Client

theorem exists_removals
    (run : BatchRun (client.store service.logged) bucket groups start events count final)
    (sized : ∀ group ∈ groups, 0 < group.length) (reaches : client.Reaches bucket) :
    ∃ exchanges, final.2 = start.2 ++ exchanges ∧ Removals bucket groups exchanges count := by
  induction run with
  | done => exact ⟨[], (List.append_nil _).symm, .done⟩
  | @failed batch _ _ _ _ answered =>
    have nonempty := List.ne_nil_of_length_pos (sized batch List.mem_cons_self)
    obtain ⟨exchange, cause, grown, asked, denied, rfl⟩ :=
      Client.refused_of_delete nonempty reaches answered
    exact ⟨_, grown, .refused asked denied⟩
  | @removed batch _ _ _ _ _ _ _ answered _ ih =>
    have nonempty := List.ne_nil_of_length_pos (sized batch List.mem_cons_self)
    obtain ⟨exchange, grown, asked, granted, rfl⟩ := Client.removed_of_delete nonempty answered
    obtain ⟨exchanges, regrown, removal⟩ :=
      ih fun group member => sized group (List.mem_cons_of_mem _ member)
    rw [grown, List.append_assoc] at regrown
    exact ⟨_, regrown, .removed asked granted removal⟩

private theorem exists_removals_of_page {page : Page} {listing : Exchange}
    (run : BatchRun (client.store service.logged) bucket (batches page.keys) start events count
      final)
    (reaches : client.Reaches bucket) (named : listing.listedKeys = page.keys) :
    ∃ exchanges, final.2 = start.2 ++ exchanges ∧
      Removals bucket (batches listing.listedKeys) exchanges count := by
  rw [named]
  exact exists_removals run (fun _ member => (length_le_of_mem_batches member).1) reaches

/-- The exchanges of a client that reaches the bucket are rounds. -/
theorem exists_rounds
    (run : PageRun (client.store service.logged) path token start events count final)
    (reaches : client.Reaches path.bucket) :
    ∃ exchanges, final.2 = start.2 ++ exchanges ∧ Rounds path.bucket exchanges count := by
  induction run with
  | unlisted answered =>
    obtain ⟨listing, cause, grown, lists, denied, rfl⟩ := Client.refused_of_list reaches answered
    exact ⟨_, grown, .unlisted lists denied⟩
  | stuck answered run =>
    obtain ⟨listing, grown, lists, granted, named⟩ := Client.listed_of_list answered
    obtain ⟨exchanges, regrown, removal⟩ := exists_removals_of_page run reaches named
    rw [grown, List.append_assoc] at regrown
    exact ⟨_, regrown, .stuck lists granted removal⟩
  | last answered run _ =>
    obtain ⟨listing, grown, lists, granted, named⟩ := Client.listed_of_list answered
    obtain ⟨exchanges, regrown, removal⟩ := exists_removals_of_page run reaches named
    rw [grown, List.append_assoc] at regrown
    exact ⟨_, regrown, .last lists granted removal⟩
  | more answered run _ _ ih =>
    obtain ⟨listing, grown, lists, granted, named⟩ := Client.listed_of_list answered
    obtain ⟨exchanges, regrown, removal⟩ := exists_removals_of_page run reaches named
    obtain ⟨rest, final, later⟩ := ih
    rw [regrown, grown, List.append_assoc, List.append_assoc, List.singleton_append] at final
    exact ⟨_, final, .more lists granted removal later⟩

/-- A client that does not reach the bucket hears nothing. -/
theorem failed_of_unreached
    (run : PageRun (client.store service.logged) path token start events count final)
    (unreached : ¬ client.Reaches path.bucket) :
    final.2 = start.2 ∧ ∃ cause, count = .error (.remote cause) := by
  have impossible (options : ListOptions) : client.build? (listRequest path options) = none :=
    Option.not_isSome_iff_eq_none.mp (mt (Client.reaches_iff_build? rfl).mpr unreached)
  cases run with
  | unlisted answered =>
    obtain ⟨exchanges, grown, listing⟩ := Client.answered_of_list answered
    obtain ⟨rfl, cause, failed⟩ := listing.failed_of_unsent (impossible _)
    cases failed
    exact ⟨by rw [grown, List.append_nil], cause, rfl⟩
  | stuck answered _ | last answered _ _ | more answered _ _ _ =>
    obtain ⟨_, _, listing⟩ := Client.answered_of_list answered
    obtain ⟨_, _, failed⟩ := listing.failed_of_unsent (impossible _)
    cases failed

end Runs

end Haulage.S3

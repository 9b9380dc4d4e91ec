import Haulage.Proofs.S3.Outcome
import Haulage.Proofs.S3.Resolving
import Haulage.Proofs.S3.Script

/-! A remote deletion over a service fails visibly: it succeeds only if every request can be made and
every reply grants all that was asked for. -/
namespace Haulage.S3

open Deletion

/-- What a client hears of a bucket and what comes of it: nothing if its requests cannot be built, or
rounds. -/
inductive Verdict (client : Client) (bucket : String) :
    List Exchange → Except Fault Nat → Prop where
  | unreached (unreached : ¬ client.Reaches bucket) : Verdict client bucket [] (.error (.remote cause))
  | heard (reaches : client.Reaches bucket) (rounds : Rounds bucket exchanges count) :
      Verdict client bucket exchanges count

/-- Nothing could be asked of a bucket, or the last exchange is the first that was denied. -/
inductive Broken (client : Client) (bucket : String) : List Exchange → Prop where
  | unreached (unreached : ¬ client.Reaches bucket) : Broken client bucket []
  | denied (earlier : ∀ exchange ∈ exchanges, exchange.granted = true)
      (denied : last.granted = false) : Broken client bucket (exchanges ++ [last])

variable {σ : Type} {service : Service σ} {environment : Environment} {endpoint : Endpoint}
  {accessKeyId secretAccessKey destination bucket : String} {path : RemotePath} {client : Client}
  {start final : σ × List Exchange} {log : List Exchange} {events : List Event}
  {count : Except Fault Nat} {fault : Fault}

theorem exists_verdict {token : Option String}
    (run : PageRun (client.store service.logged) path token start events count final) :
    ∃ exchanges, final.2 = start.2 ++ exchanges ∧ Verdict client path.bucket exchanges count := by
  by_cases reaches : client.Reaches path.bucket
  · obtain ⟨exchanges, grown, rounds⟩ := exists_rounds run reaches
    exact ⟨exchanges, grown, .heard reaches rounds⟩
  · obtain ⟨unchanged, cause, rfl⟩ := failed_of_unreached run reaches
    exact ⟨[], unchanged.trans (List.append_nil _).symm, .unreached reaches⟩

namespace Verdict

theorem ok_iff (verdict : Verdict client bucket log count) : (∃ gone, count = .ok gone) ↔
    client.Reaches bucket ∧ ∀ exchange ∈ log, exchange.granted = true := by
  cases verdict with
  | unreached unreached => exact iff_of_false nofun fun able => unreached able.1
  | heard reaches rounds =>
    exact rounds.outcome.ok_iff.trans (and_iff_right reaches).symm

theorem broken (verdict : Verdict client bucket log (.error fault)) :
    (∃ cause, fault = .remote cause) ∧ Broken client bucket log := by
  cases verdict with
  | unreached unreached => exact ⟨⟨_, rfl⟩, .unreached unreached⟩
  | heard _ rounds =>
    cases rounds.outcome with
    | denied earlier denied => exact ⟨⟨_, rfl⟩, .denied earlier denied⟩

theorem orderly (verdict : Verdict client bucket log count) : Orderly log := by
  cases verdict with
  | unreached _ =>
    refine ⟨fun _ first => absurd first (Option.not_mem_none _), List.forall_mem_nil _, ?_⟩
    intro listing rest _ suffix
    cases List.suffix_nil.mp suffix
  | heard _ rounds => exact rounds.orderly

end Verdict

/-- With keys that are given, what is heard is heard of the bucket. -/
theorem verdict_of_keys
    (run : RemoteRun
      (connector service.logged environment (.keys accessKeyId secretAccessKey) endpoint)
      path start events count final) :
    ∃ exchanges, final.2 = start.2 ++ exchanges ∧
      Verdict (endpoint.client service.toLibrary environment
        (some ⟨accessKeyId, secretAccessKey, none⟩)) path.bucket exchanges count := by
  cases run with
  | refused answered => cases answered
  | served answered run =>
    cases answered
    rw [service.logged.client_configure] at run
    exact exists_verdict run

/-- Whatever the replies are, a remote deletion with keys that are given succeeds exactly if its
requests can be built and every reply that it hears grants all that was asked. Otherwise it fails for a
remote cause, and the first reply that does not is the last that it hears. It asks for nothing but
pages and, behind each of them, for the deletion of its keys in order: of all of them, except on a page
of several batches of which one is denied. Where the pages come to an end the deletion does. -/
theorem deleteRecursive_swallows_nothing (service : Service σ) (environment : Environment)
    (endpoint : Endpoint) (accessKeyId secretAccessKey : String) (files : FileTree) (state : σ)
    (pages : Nat) (found : StoragePath.ofText destination = .remote path) :
    let connector :=
      connector service.logged environment (.keys accessKeyId secretAccessKey) endpoint
    let client :=
      endpoint.client service.toLibrary environment (some ⟨accessKeyId, secretAccessKey, none⟩)
    (∀ result kept final log, deleteRecursive connector pages destination ⟨files, state, []⟩ =
        some (result, ⟨kept, final, log⟩) →
      ((∃ outcome, result = .ok outcome) ↔
        client.Reaches path.bucket ∧ ∀ exchange ∈ log, exchange.granted = true) ∧
      (∀ fault, result = .error fault →
        (∃ cause, fault = .remote cause) ∧ Broken client path.bucket log) ∧
      Orderly log) ∧
    ∀ left, service.Exhaustible left → left state < pages →
      ∃ result after, deleteRecursive connector pages destination ⟨files, state, []⟩ =
        some (result, after) := by
  intro connector client
  constructor
  · intro result kept final log finished
    obtain ⟨events, count, run, -, rfl, -⟩ := exists_remoteRun found finished
    obtain ⟨exchanges, grown, verdict⟩ := verdict_of_keys run
    rw [List.nil_append] at grown
    dsimp only at grown
    subst grown
    refine ⟨?_, ?_, verdict.orderly⟩
    · rw [exists_map_ok_iff]
      exact verdict.ok_iff
    · intro fault failed
      cases count with
      | ok gone => cases failed
      | error cause =>
        cases failed
        exact verdict.broken
  · intro left exhaustible enough
    exact deleteRecursive_ends (connector_exhaustible exhaustible path) found enough files

/-- Two pages, the first with an entry that has no key. Of the second page one key is deleted and the
other is not. -/
def grudging : Script where
  lists := [.listed [⟨some "p/a", none, none, none⟩, ⟨none, none, none, none⟩,
      ⟨some "p/b", none, none, none⟩] (some true) (some "t"),
    .listed [⟨some "p/c", none, none, none⟩, ⟨some "p/d", none, none, none⟩] none none]
  deletes := [.deleted [none, some "p/a"] [],
    .deleted [some "p/c"] [⟨some "p/d", some "AccessDenied", none⟩]]

private def grudgingLog : List Exchange :=
  let sent (request : Request) : Sent := ⟨.storage, request, "AWS_REGION", "k", none⟩
  [⟨sent (.list "b" (some "p") (some 1000) none), .listed [⟨some "p/a", none, none, none⟩,
      ⟨none, none, none, none⟩, ⟨some "p/b", none, none, none⟩] (some true) (some "t")⟩,
    ⟨sent (.delete "b" ["p/a", "p/b"]), .deleted [none, some "p/a"] []⟩,
    ⟨sent (.list "b" (some "p") (some 1000) (some "t")), .listed [⟨some "p/c", none, none, none⟩,
      ⟨some "p/d", none, none, none⟩] none none⟩,
    ⟨sent (.delete "b" ["p/c", "p/d"]),
      .deleted [some "p/c"] [⟨some "p/d", some "AccessDenied", none⟩]⟩]

/-- The keys of both pages are named, and the one that stays makes the deletion fail. -/
theorem grudging_fails :
    let client : Client :=
      Endpoint.client ⟨none, none⟩ Script.service.toLibrary nominal (some ⟨"k", "s", none⟩)
    ∃ cause kept final log,
      deleteRecursive (connector Script.service.logged nominal (.keys "k" "s") ⟨none, none⟩) 3
          "s3://b/p" ⟨FileTree.startingAt [], grudging, []⟩ =
        some (.error (.remote cause), ⟨kept, final, log⟩) ∧
      log.map Exchange.granted = [true, true, true, false] ∧ Broken client "b" log ∧
      ∃ listing rest, listing :: rest = log ∧ NamesListed listing rest := by
  intro client
  have named : StoragePath.ofText "s3://b/p" = .remote ⟨"b", "p"⟩ := by decide
  obtain ⟨judged, ends⟩ := deleteRecursive_swallows_nothing Script.service nominal ⟨none, none⟩ "k" "s"
    (FileTree.startingAt []) grudging 3 named
  obtain ⟨result, ⟨kept, final, log⟩, finished⟩ :=
    ends _ Script.service_exhaustible (show 2 < 3 by decide)
  have heard : (deleteRecursive
      (connector Script.service.logged nominal (.keys "k" "s") ⟨none, none⟩) 3
      "s3://b/p" ⟨FileTree.startingAt [], grudging, []⟩).map (·.2.service.2) = some grudgingLog := by
    decide +kernel
  rw [finished, Option.map_some, Option.some.injEq] at heard
  dsimp only at heard
  subst heard
  obtain ⟨succeeds, fails, orderly⟩ := judged result kept final _ finished
  cases result with
  | ok outcome =>
    have granted := (succeeds.mp ⟨outcome, rfl⟩).2
    exact absurd granted (by decide)
  | error fault =>
    obtain ⟨⟨cause, rfl⟩, broken⟩ := fails fault rfl
    exact ⟨cause, kept, final, _, finished, rfl, broken, _, _, rfl,
      orderly.named _ _ rfl List.suffix_rfl⟩

end Haulage.S3

import Haulage.Proofs.Files.Leads
import Haulage.Proofs.S3.Exchange

/-! What comes of putting a file: at most one request, which carries the bytes of the file, and a
success exactly if the service says that it has stored them. -/
namespace Haulage.S3

/-- Whether a reply says that a file is stored. -/
def Reply.stored? : Reply → Option Unit
  | .stored _ => some ()
  | _ => none

theorem Request.grantedBy_put (bucket key : String) (contentType : Option String)
    (content : List UInt8) (reply : Reply) :
    (Request.put bucket key contentType content).grantedBy reply = reply.stored?.isSome := by
  cases reply <;> rfl

/-- The request for a file of the given bytes. -/
def Library.putRequest (library : Library) (path : RemotePath) (source : String)
    (content : List UInt8) : Request :=
  .put path.bucket path.key (library.contentType? source) content

namespace Client

variable {σ : Type} {service : Service σ} {client : Client} {path : RemotePath} {source : String}
  {files : FileTree} {identity : Nat} {start : σ × List Exchange}

theorem answered_of_put {state : σ} {log : List Exchange} {after : σ × List Exchange}
    {result : Except Fault ObjectInfo} (found : files.fileAt? source = some identity)
    (answered : (client.store service.logged).put path source files (state, log) =
      (result, after)) :
    ∃ exchanges, after.2 = log ++ exchanges ∧
      Answered service .remote Reply.stored?
        (client.build? (service.putRequest path source (files.files identity).content)) state
        exchanges (result.map fun _ => ()) after.1 := by
  obtain ⟨lies, looked⟩ := FileTree.fileAt?_eq_some_iff.mp found
  unfold store at answered
  dsimp only at answered
  rw [looked] at answered
  dsimp only at answered
  generalize asked : client.ask service.logged _ (state, log) = reached at answered
  obtain ⟨taken, next⟩ := reached
  obtain ⟨exchanges, grown, heard⟩ := heard_of_ask asked
  cases heard with
  | unsent impossible =>
    cases answered
    exact ⟨[], grown, .unsent impossible⟩
  | @replied sent reply _ possible replied =>
    cases reply with
    | stored etag =>
      cases answered
      exact ⟨_, grown, .granted possible replied rfl⟩
    | _ =>
      cases answered
      exact ⟨_, grown, .denied possible replied rfl⟩

/-- A file is put by one request with its bytes, and what that is granted decides; only if the request
cannot be built, nothing is sent and putting fails. -/
theorem exists_exchanges_of_put (service : Service σ) (client : Client) (path : RemotePath)
    (found : files.fileAt? source = some identity) (start : σ × List Exchange) :
    let request := service.putRequest path source (files.files identity).content
    ∃ exchanges result final,
      (client.store service.logged).put path source files start =
        (result, final, start.2 ++ exchanges) ∧
      (client.build? request = none ∧ exchanges = [] ∧ (∃ fault, result = .error fault) ∨
        ∃ exchange, client.build? request = some exchange.sent ∧ exchanges = [exchange] ∧
          exchange.sent.request = request ∧
          ((∃ info, result = .ok info) ↔ exchange.granted = true)) := by
  intro request
  generalize answered : (client.store service.logged).put path source files start = reached
  obtain ⟨result, final, log⟩ := reached
  obtain ⟨exchanges, grown, putting⟩ := answered_of_put found answered
  dsimp only at grown
  subst grown
  refine ⟨exchanges, result, final, rfl, ?_⟩
  have granted {sent : Sent} {reply : Reply} (built : client.build? request = some sent) :
      sent.request = request ∧ Exchange.granted ⟨sent, reply⟩ = reply.stored?.isSome := by
    have asked := (build?_sends built rfl).1
    refine ⟨asked, ?_⟩
    rw [Exchange.granted, asked]
    exact Request.grantedBy_put _ _ _ _ reply
  cases result with
  | ok info =>
    cases putting with
    | granted built _ taken =>
      obtain ⟨asked, told⟩ := granted built
      refine .inr ⟨_, built, rfl, asked, iff_of_true ⟨info, rfl⟩ ?_⟩
      rw [told, taken, Option.isSome_some]
  | error fault =>
    cases putting with
    | unsent impossible => exact .inl ⟨impossible, rfl, _, rfl⟩
    | denied built _ unread =>
      obtain ⟨asked, told⟩ := granted built
      refine .inr ⟨_, built, rfl, asked, ?_⟩
      rw [told, unread]
      simp

end Client

end Haulage.S3

import Haulage.Proofs.S3.Rounds
import Haulage.Proofs.Storage.Exhaustion

/-! Services whose listings come to an end. A service that answers from replies laid down beforehand
is one: when they are used up, nothing is listed any more. -/
namespace Haulage.S3

variable {σ : Type}

/-- A page that leads on takes from what is left, and no exchange adds to it. -/
structure Service.Exhaustible (service : Service σ) (left : σ → Nat) : Prop where
  list : ∀ {sent bucket keyPrefix maxKeys behind state objects token next},
    sent.request = .list bucket keyPrefix maxKeys behind →
    service.exchange sent state = (.listed objects (some true) (some token), next) →
    left next < left state
  rest : ∀ sent state, left (service.exchange sent state).2 ≤ left state

/-- Replies laid down beforehand for listings and for deletions. -/
structure Script where
  lists : List Reply
  deletes : List Reply

/-- A service that answers from a script. When the replies of a kind are used up, listings are empty
and deletions name the keys that were asked for; it answers nothing else. -/
def Script.service : Service Script where
  toLibrary := .ofVariables fun _ => ""
  exchange sent script :=
    match sent.request with
    | .list _ _ _ _ =>
      (script.lists.headD (.listed [] none none), { script with lists := script.lists.tail })
    | .delete _ keys =>
      (script.deletes.headD (.deleted (keys.map some) []),
        { script with deletes := script.deletes.tail })
    | _ => (.failed "", script)
  clock _ := 0

variable {service : Service σ} {left : σ → Nat} {environment : Environment} {method : AccessMethod}
  {endpoint : Endpoint}

private abbrev Lessens (left : σ → Nat) : σ × List Exchange → σ × List Exchange → Prop :=
  Order.Preimage (fun state => left state.1) (· ≥ ·)

/-- A page with a next one is a reply that says so. -/
theorem Reply.leads_on {reply : Reply} {page : Page} {token : String}
    (taken : reply.page? = some page) (going : page.next? = some token) :
    ∃ objects, reply = .listed objects (some true) (some token) := by
  cases reply with
  | listed objects truncated next =>
    cases taken
    unfold Page.next? at going
    split at going
    · rename_i cut
      cases truncated with
      | none => cases cut
      | some truncated =>
        obtain ⟨rfl⟩ : truncated = true := cut
        exact ⟨objects, congrArg _ going⟩
    · cases going
  | _ => cases taken

theorem Client.store_exhaustible (exhaustible : service.Exhaustible left) (client : Client)
    (path : RemotePath) :
    (client.store service.logged).Exhaustible path fun _ state => left state.1 where
  list := by
    rintro options ⟨state, log⟩ page token listed answered going
    obtain ⟨exchanges, _, listing⟩ := Client.answered_of_list answered
    cases listing with
    | granted possible replied taken =>
      obtain ⟨objects, rfl⟩ := Reply.leads_on taken going
      exact exhaustible.list (Client.build?_sends possible rfl).1 replied
  delete answered _ := by
    have keeps : (client.store service.logged).Keeps (Lessens left) :=
      Client.store_keeps fun sent _ _ state => exhaustible.rest sent state.1
    exact (keeps.delete _ _).of_eq answered

theorem connector_exhaustible (exhaustible : service.Exhaustible left) (path : RemotePath) :
    (connector service.logged environment method endpoint).Exhaustible path
      fun _ state => left state.1 where
  connect answered := by
    have keeps : (connector service.logged environment method endpoint).Keeps (Lessens left) :=
      connector_keeps fun sent _ state => exhaustible.rest sent state.1
    refine ⟨keeps.connect.of_eq answered, ?_⟩
    obtain ⟨client, _, rfl⟩ := exists_client answered
    exact client.store_exhaustible exhaustible path

theorem Script.service_exhaustible : Script.service.Exhaustible (·.lists.length) where
  list := by
    rintro sent bucket keyPrefix maxKeys behind ⟨lists, deletes⟩ objects token next asked answered
    simp only [Script.service, asked, Prod.mk.injEq] at answered
    obtain ⟨replied, rfl⟩ := answered
    cases lists with
    | nil => cases replied
    | cons reply rest => exact Nat.lt_succ_self _
  rest := by
    intro sent script
    unfold Script.service
    dsimp only
    split
    · exact List.length_tail.trans_le (Nat.sub_le _ _)
    · exact Nat.le_refl _
    · exact Nat.le_refl _

end Haulage.S3

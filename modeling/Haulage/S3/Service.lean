import Haulage.S3.Library

/-! A service as its clients see it, through a library: replies may depend on everything that happened
before. -/
namespace Haulage.S3

structure Service (σ : Type) extends Library where
  /-- What comes of an operation. Attempts that the library makes again of its own accord are part of
  it, and only the reply that it settles for is seen. -/
  exchange : Sent → σ → Reply × σ
  /-- Seconds since 1970. -/
  clock : σ → Int

/-- A service that keeps a list of the requests it was sent. -/
def Service.recorded {σ : Type} (service : Service σ) : Service (σ × List Sent) where
  toLibrary := service.toLibrary
  exchange sent := fun (state, log) =>
    let (reply, state) := service.exchange sent state
    (reply, state, log ++ [sent])
  clock := fun (state, _) => service.clock state

/-- A service that cannot be reached. -/
def Service.unreachable (words : String) : Service Unit where
  toLibrary := .ofVariables fun _ => words
  exchange _ state := (.failed words, state)
  clock _ := 0

end Haulage.S3

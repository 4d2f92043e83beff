import RackFabric.Net.ServerRun
import RackFabric.Runtime.Regression

/-!
What the daemon sends can be read. A message that goes out decodes to itself, whatever the request and the state,
unless a listing is longer than its decoder takes or a grant is numbered zero, which the wire has no spelling for.
-/

namespace RackFabric

open Foundation

namespace Seals

variable {encode : ByteWriter → Result ByteWriter} {data : List UInt8} {acceptable : Prop}

/-- An encoder that succeeds was given what it accepts. -/
theorem accepted (seals : Seals encode data acceptable) {limit : Nat} {next : ByteWriter}
    (encoded : encode { limit := limit } = .ok next) : acceptable := by
  obtain ⟨other, puts, result⟩ := seals.encodes { limit := limit }
  have working := seals.working _ _ encoded
  rcases result with same | ⟨-, status, refused⟩
  · rw [encoded, Except.ok.injEq] at same
    subst same
    exact (puts.ok.mp working).2.1
  · rw [encoded] at refused
    cases refused

end Seals

/-- What the wire has a spelling for: listings within the bounds of their decoders, and no grant numbered zero. -/
def MessageForm.Carries : (form : MessageForm) → form.Body → Prop
  | grantResponse, (message : GrantResponse) => message.grant.id = 0 → message.grant = {}
  | resourcesResponse, (message : ResourcesResponse) => message.entries.length ≤ kLimits.maxResources
  | pathsResponse, (message : PathsResponse) => message.entries.length ≤ kLimits.maxPaths
  | grantsResponse, (message : GrantsResponse) => message.entries.length ≤ kLimits.maxGrants
  | _, _ => True

instance : (form : MessageForm) → (body : form.Body) → Decidable (form.Carries body)
  | .grantResponse, (message : GrantResponse) => inferInstanceAs (Decidable (message.grant.id = 0 → message.grant = {}))
  | .resourcesResponse, (message : ResourcesResponse) =>
    inferInstanceAs (Decidable (message.entries.length ≤ kLimits.maxResources))
  | .pathsResponse, (message : PathsResponse) =>
    inferInstanceAs (Decidable (message.entries.length ≤ kLimits.maxPaths))
  | .grantsResponse, (message : GrantsResponse) =>
    inferInstanceAs (Decidable (message.entries.length ≤ kLimits.maxGrants))
  | .helloRequest, _ | .helloResponse, _ | .submitEvidenceRequest, _ | .evidenceAckResponse, _ | .composeCommand, _
  | .composeResponse, _ | .acquireRequest, _ | .renewRequest, _ | .tokenMessage, _ | .lookupRequest, _
  | .lookupResponse, _ | .stateResponse, _ | .resourceQuery, _ | .lifecycleRequest, _ | .lifecycleResponse, _
  | .statsResponse, _ | .ackResponse, _ => inferInstanceAs (Decidable True)

/-- A message that can be read once it is on the wire. -/
def Message.Readable (message : Message) : Prop :=
  ∀ limit written, message.form.encode message.body { limit := limit } = .ok written →
    message.form.Carries message.body → message.form.Sound message.body

namespace GrantSummary

/-- A summary that names no grant, or one that can be listed. -/
def Told (summary : GrantSummary) : Prop :=
  summary = {} ∨ ∃ grant : Grant, grant.Listable ∧ summary = .ofGrant grant

theorem Told.legible {summary : GrantSummary} (told : summary.Told) :
    summary.scope.kind.Known ∧ Detail summary.reason := by
  rcases told with rfl | ⟨grant, listable, rfl⟩
  · have rack : ResourceKind.Known (({} : GrantSummary).scope.kind) := by
      unfold ResourceKind.Known
      decide
    exact ⟨rack, Printable.detail (by decide) (by decide)⟩
  · exact listable

end GrantSummary

namespace DaemonCore

variable {core next : DaemonCore}

end DaemonCore

end RackFabric

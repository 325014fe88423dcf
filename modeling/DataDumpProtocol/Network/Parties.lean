import DataDumpProtocol.Network.Model

/-!
# The server's part of a run

In a network, the server does what it could do in an environment of its own.  So
whatever holds in every run of a server holds of its part of every run of a
network.
-/

namespace DataDumpProtocol

namespace Observation

/-- The server's events. -/
def ofServer : Observation → Option Event
  | .client _ => none
  | .server event => some event

variable {events : List Event}

@[simp] theorem filterMap_ofServer_client :
    (events.map client).filterMap ofServer = [] := by
  simp [ofServer]

@[simp] theorem filterMap_ofServer_server :
    (events.map server).filterMap ofServer = events := by
  induction events with
  | nil => rfl
  | cons event events inductionHypothesis =>
      simp [ofServer, inductionHypothesis]

theorem count_server_server (event : Event) :
    (events.map server).count (.server event) = events.count event :=
  List.count_map_of_injective _ _ (fun _ _ => server.inj) _

theorem count_server_client (event : Event) :
    (events.map client).count (.server event) = 0 :=
  List.count_eq_zero.mpr (by simp)

end Observation

namespace Network

variable {admits : Network → List Observation → Action → Prop}
variable {start network : Network} {trace : List Observation}

/-- The server's part of a run is a run of the server. -/
theorem server_of_reaches
    {admits' : DDServer → List Event → DDServer.Action → Prop}
    (reaches : machine.Reaches admits start network trace)
    (answers : ∀ network trace action arrives,
      admits network trace (.server action arrives) →
        admits' network.server (trace.filterMap Observation.ofServer)
          (action.hearing (Channel.heard network.toServer arrives).bytes)) :
    DDServer.machine.Reaches admits' start.server network.server
      (trace.filterMap Observation.ofServer) := by
  refine reaches.project Network.server Observation.ofServer ?_
  intro network trace action _ _ admitted
  cases action with
  | client action arrives =>
      left
      simp only [machine, step, Observation.filterMap_ofServer_client]
      exact ⟨rfl, trivial⟩
  | server action arrives =>
      right
      refine ⟨_, answers _ _ _ _ admitted, ?_⟩
      simp only [machine, step, Observation.filterMap_ofServer_server]
      rfl
  | disturb => exact .inl ⟨rfl, rfl⟩

end Network

end DataDumpProtocol

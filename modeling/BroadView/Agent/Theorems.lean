import BroadView.Agent
import BroadView.Transition

namespace BroadView.Agent

open CString Transition

-- The client endpoint that both copies stand for.
structure Endpoint where
  ip : List Char
  port : Int32
  ip_valid : ValidIp ip
  port_valid : ValidPort port

namespace Endpoint

def initial : Endpoint :=
  { ip := SYSTEM_CONFIG_PROPERTY_CLIENT_IP_DEFAULT.toList
    port := .ofNat SYSTEM_CONFIG_PROPERTY_CLIENT_PORT_DEFAULT
    ip_valid := by decide +kernel
    port_valid := by decide }

-- Valid values are taken over, each on its own.
def receive (endpoint : Endpoint) (config : BroadviewConfig) : Endpoint where
  ip := if ValidIp config.bview_client_ip then config.bview_client_ip else endpoint.ip
  port := if ValidPort config.bview_client_port then config.bview_client_port else endpoint.port
  ip_valid := by
    split
    · assumption
    · exact endpoint.ip_valid
  port_valid := by
    split
    · assumption
    · exact endpoint.port_valid

end Endpoint

-- The agent with the last valid values it received.
structure Tracked where
  agent : AgentState
  last : Endpoint

def Tracked.initial : Tracked := { agent := .initial, last := .initial }

def Tracked.step (state : Tracked) (config : BroadviewConfig) : Tracked :=
  { agent := update_broadview_config config state.agent, last := state.last.receive config }

structure Holds (agent : AgentState) (endpoint : Endpoint) : Prop where
  system_ip : agent.system_agent_cfg.clientIp.string = some endpoint.ip
  rest_ip : agent.rest_config.clientIp.string = some endpoint.ip
  system_port : agent.system_agent_cfg.clientPort = endpoint.port
  rest_port : agent.rest_config.clientPort = endpoint.port

def ClientSound (state : Tracked) (config : BroadviewConfig) : Prop :=
  Holds (state.step config).agent (state.step config).last

-- A new valid value does not come with an invalid one.
structure ClientAllowed (state : Tracked) (config : BroadviewConfig) : Prop where
  ip : ValidIp config.bview_client_ip → config.bview_client_ip ≠ state.last.ip →
    ValidPort config.bview_client_port
  port : ValidPort config.bview_client_port → config.bview_client_port ≠ state.last.port →
    ValidIp config.bview_client_ip

section Step

variable {state : Tracked} (config : BroadviewConfig)

-- The agent port is no part of the endpoint.
theorem holds_update_iff (agent : AgentState) (endpoint : Endpoint) :
    Holds (update_broadview_config config agent) endpoint ↔
      Holds (update_client config agent) endpoint := by
  unfold update_broadview_config
  by_cases hport : agent_port_changed config agent = true
  · rw [if_pos hport]
    exact ⟨fun h => ⟨h.1, h.2, h.3, h.4⟩, fun h => ⟨h.1, h.2, h.3, h.4⟩⟩
  · rw [if_neg hport]

theorem client_ip_changed_iff (hholds : Holds state.agent state.last) :
    client_ip_changed config state.agent = true ↔
      ValidIp config.bview_client_ip ∧ config.bview_client_ip ≠ state.last.ip := by
  have hshort := state.last.ip_valid.1
  simp only [BVIEW_MAX_IP_ADDR_LENGTH] at hshort
  have hcurrent : system_agent_client_ipaddr_get state.agent.system_agent_cfg = state.last.ip :=
    prefixString_of_string hholds.system_ip (by simp only [BVIEW_MAX_IP_ADDR_LENGTH]; omega)
  simp [client_ip_changed, hcurrent]

theorem client_port_changed_iff (hholds : Holds state.agent state.last) :
    client_port_changed config state.agent = true ↔
      ValidPort config.bview_client_port ∧ config.bview_client_port ≠ state.last.port := by
  simp [client_port_changed, hholds.system_port]

-- A map without a new valid value changes neither the copies nor the endpoint.
theorem receive_of_unchanged {endpoint : Endpoint}
    (hip : ¬ (ValidIp config.bview_client_ip ∧ config.bview_client_ip ≠ endpoint.ip))
    (hport : ¬ (ValidPort config.bview_client_port ∧ config.bview_client_port ≠ endpoint.port)) :
    endpoint.receive config = endpoint := by
  have hsameip : (endpoint.receive config).ip = endpoint.ip := by
    by_cases hvalid : ValidIp config.bview_client_ip
    · simp only [Endpoint.receive, if_pos hvalid]
      by_contra hne
      exact hip ⟨hvalid, hne⟩
    · simp only [Endpoint.receive, if_neg hvalid]
  have hsameport : (endpoint.receive config).port = endpoint.port := by
    by_cases hvalid : ValidPort config.bview_client_port
    · simp only [Endpoint.receive, if_pos hvalid]
      by_contra hne
      exact hport ⟨hvalid, hne⟩
    · simp only [Endpoint.receive, if_neg hvalid]
  cases endpoint
  simp_all [Endpoint.receive]

-- The last byte of the system's copy is never written.
def Terminated (agent : AgentState) : Prop :=
  agent.system_agent_cfg.clientIp.bytes.drop (BVIEW_MAX_IP_ADDR_LENGTH - 1) = [none]

theorem terminated_step (agent : AgentState) (hterm : Terminated agent) :
    Terminated (update_broadview_config config agent) := by
  have hclient : Terminated (update_client config agent) := by
    unfold update_client
    split
    · exact (drop_strncpy _ (by decide)).trans hterm
    · exact hterm
  unfold update_broadview_config
  by_cases hport : agent_port_changed config agent = true
  · rw [if_pos hport]
    exact hclient
  · rw [if_neg hport]
    exact hclient

-- Both copies hold the endpoint after a write exactly if it is what is written.
theorem holds_written_iff {agent : AgentState} (hterm : Terminated agent) (endpoint : Endpoint) :
    Holds
        { system_agent_cfg := system_agent_client_info_set config.bview_client_ip
            config.bview_client_port agent.system_agent_cfg
          rest_config := rest_agent_config_params_modify config.bview_client_ip
            config.bview_client_port agent.rest_config } endpoint ↔
      config.bview_client_ip = endpoint.ip ∧ config.bview_client_port = endpoint.port := by
  constructor
  · intro hholds
    have hrest : (strncpy agent.rest_config.clientIp config.bview_client_ip
        REST_MAX_IP_ADDR_LENGTH le_rfl).string = some endpoint.ip := hholds.rest_ip
    refine ⟨?_, hholds.system_port⟩
    by_cases hlength : config.bview_client_ip.length < REST_MAX_IP_ADDR_LENGTH
    · rw [string_strncpy _ _ hlength] at hrest
      exact Option.some.inj hrest
    · rw [string_strncpy_full _ (by omega)] at hrest
      cases hrest
  · rintro ⟨hip, hport⟩
    have hshort := endpoint.ip_valid.1
    rw [← hip] at hshort
    simp only [BVIEW_MAX_IP_ADDR_LENGTH] at hshort
    have hsystem : (strncpy agent.system_agent_cfg.clientIp config.bview_client_ip
        (BVIEW_MAX_IP_ADDR_LENGTH - 1) (by decide)).string = some config.bview_client_ip := by
      rw [string_strncpy_terminated _ _ hterm, List.take_of_length_le]
      simp only [BVIEW_MAX_IP_ADDR_LENGTH]
      omega
    exact
      { system_ip := hsystem.trans (congrArg some hip)
        rest_ip := (string_strncpy _ le_rfl hshort).trans (congrArg some hip)
        system_port := hport
        rest_port := hport }

-- What is received is what is written exactly if both values are valid or old.
theorem receive_eq_iff (endpoint : Endpoint) :
    (config.bview_client_ip = (endpoint.receive config).ip ∧
        config.bview_client_port = (endpoint.receive config).port) ↔
      ValidIp config.bview_client_ip ∧ ValidPort config.bview_client_port := by
  constructor
  · rintro ⟨hip, hport⟩
    rw [hip, hport]
    exact ⟨(endpoint.receive config).ip_valid, (endpoint.receive config).port_valid⟩
  · rintro ⟨hip, hport⟩
    simp [Endpoint.receive, hip, hport]

structure Inv (state : Tracked) : Prop where
  holds : Holds state.agent state.last
  terminated : Terminated state.agent

theorem inv_initial : Inv .initial where
  holds :=
    { system_ip := by decide +kernel
      rest_ip := by decide +kernel
      system_port := rfl
      rest_port := rfl }
  terminated := by
    rw [Terminated]
    decide +kernel

theorem inv_step (hinv : Inv state) (hsound : ClientSound state config) :
    Inv (state.step config) where
  holds := hsound
  terminated := terminated_step config state.agent hinv.terminated

theorem clientSound_iff (hinv : Inv state) :
    ClientSound state config ↔ ClientAllowed state config := by
  have hip := client_ip_changed_iff config hinv.holds
  have hport := client_port_changed_iff config hinv.holds
  rw [ClientSound, Tracked.step, holds_update_iff, update_client]
  by_cases hchanged : client_ip_changed config state.agent = true ∨
      client_port_changed config state.agent = true
  · rw [if_pos (by simpa using hchanged), holds_written_iff config hinv.terminated, receive_eq_iff]
    constructor
    · rintro ⟨hvalidip, hvalidport⟩
      exact ⟨fun _ _ => hvalidport, fun _ _ => hvalidip⟩
    · intro hallowed
      rcases hchanged with hnew | hnew
      · obtain ⟨hvalid, hne⟩ := hip.mp hnew
        exact ⟨hvalid, hallowed.ip hvalid hne⟩
      · obtain ⟨hvalid, hne⟩ := hport.mp hnew
        exact ⟨hallowed.port hvalid hne, hvalid⟩
  · rw [if_neg (by simpa using hchanged)]
    rw [hip, hport, not_or] at hchanged
    obtain ⟨hsameip, hsameport⟩ := hchanged
    rw [receive_of_unchanged config hsameip hsameport]
    constructor
    · intro _
      exact ⟨fun hvalid hne => absurd ⟨hvalid, hne⟩ hsameip,
        fun hvalid hne => absurd ⟨hvalid, hne⟩ hsameport⟩
    · exact fun _ => hinv.holds

end Step

section Run

-- After every map of a run, both copies hold the last valid values exactly if
-- no new valid value comes with an invalid one.
theorem client_endpoint_consistent_iff (configs : List BroadviewConfig) :
    Along Tracked.step ClientSound .initial configs ↔
      Along Tracked.step ClientAllowed .initial configs := by
  constructor
  · intro hsound
    refine along_of_invariant Inv ?_ ?_ _ configs inv_initial hsound
    · intro state config hinv hstep
      exact inv_step config hinv hstep
    · intro state config hinv hstep
      exact (clientSound_iff config hinv).mp hstep
  · intro hallowed
    refine along_of_invariant Inv ?_ ?_ _ configs inv_initial hallowed
    · intro state config hinv hstep
      exact inv_step config hinv ((clientSound_iff config hinv).mpr hstep)
    · intro state config hinv hstep
      exact (clientSound_iff config hinv).mpr hstep

-- A new address with port 0.
def addressWithoutPort : BroadviewConfig :=
  { client_ip := some "10.0.0.1".toList, client_port := some 0, agent_port := none }

theorem invalid_port_taken_over :
    ¬ Along Tracked.step ClientSound .initial [addressWithoutPort] := by
  rintro ⟨hsound, -⟩
  have hport : (update_broadview_config addressWithoutPort .initial).system_agent_cfg.clientPort =
      0 := by
    decide +kernel
  have hlast : (Endpoint.initial.receive addressWithoutPort).port = 9070 := by
    decide +kernel
  have hheld : (update_broadview_config addressWithoutPort .initial).system_agent_cfg.clientPort =
      (Endpoint.initial.receive addressWithoutPort).port := hsound.system_port
  rw [hport, hlast] at hheld
  exact absurd hheld (by decide)

end Run

end BroadView.Agent

import FrameSentry.Daemon.Listener
import FrameSentry.Proofs.Net.Reading

/-! Where the listener for metrics waits. The configured address and port are written side by side and read as one socket
    address, whose grammar is not that of an address: one of version 6 needs brackets there. So an address of version 4 is
    taken as it is written, one of version 6 is refused unless it stands in brackets, in which no address is written alone.
    Nothing else is taken, and the port is always the configured one. -/

namespace FrameSentry

namespace Net
variable {text : String} {port : UInt16} {x : SocketAddress}

/-- An address of version 6 in brackets, with or without a scope. -/
def Bracketed (text : String) (ip : Ipv6) (scope : UInt32) : Prop :=
  ∃ address zone, text = "[" ++ address ++ zone ++ "]" ∧ Ip.parse? address = some (.v6 ip) ∧ Zone zone.toList scope

theorem bracketed_iff {ip : Ipv6} {scope : UInt32} : Bracketed text ip scope ↔
    ∃ t zone, text.toList = '[' :: (t ++ (zone ++ [']'])) ∧ readIpv6 t = some (ip, []) ∧ Zone zone scope := by
  constructor
  · rintro ⟨address, zone, rfl, haddress, hzone⟩
    exact ⟨address.toList, zone.toList, by simp, parse?_eq_v6.mp haddress, hzone⟩
  · rintro ⟨t, zone, htext, ht, hzone⟩
    refine ⟨String.ofList t, String.ofList zone, ?_, parse?_eq_v6.mpr (by simpa using ht), by simpa using hzone⟩
    rw [← String.toList_inj, htext]
    simp

/-- With its brackets it is not the text of an address. -/
theorem Bracketed.parse?_ne {ip : Ipv6} {scope : UInt32} (h : Bracketed text ip scope) (address : Ip) :
    Ip.parse? text ≠ some address := by
  obtain ⟨t, zone, htext, -⟩ := bracketed_iff.mp h
  rw [parse?_of_bracket htext]
  exact nofun

theorem toList_pasted (text : String) (port : UInt16) :
    s!"{text}:{port.toNat}".toList = text.toList ++ ':' :: Numeral.write 10 port.toNat := by
  simp [Numeral.write, toString]

/-- An address with a port behind it is read as a socket address just if it is one of version 4, or one of version 6 in
    brackets. -/
theorem parse?_pasted : SocketAddress.parse? s!"{text}:{port.toNat}" = some x ↔
    (∃ ip, Ip.parse? text = some (.v4 ip) ∧ x = ⟨.v4 ip, 0, port⟩) ∨
      ∃ ip scope, Bracketed text ip scope ∧ x = ⟨.v6 ip, scope, port⟩ := by
  have hv4 : ∀ x, readWhole readSocketV4 s!"{text}:{port.toNat}" = some x ↔
      ∃ ip, Ip.parse? text = some (.v4 ip) ∧ x = ⟨.v4 ip, 0, port⟩ := by
    intro x
    rw [readWhole_eq_some, toList_pasted, readSocketV4_pasted]
    simp only [parse?_eq_v4]
  have hv6 : ∀ x, readWhole readSocketV6 s!"{text}:{port.toNat}" = some x ↔
      ∃ ip scope, Bracketed text ip scope ∧ x = ⟨.v6 ip, scope, port⟩ := by
    intro x
    rw [readWhole_eq_some, toList_pasted, readSocketV6_pasted]
    simp only [bracketed_iff]
    constructor
    · rintro ⟨t, zone, ip, scope, htext, ht, hzone, rfl⟩
      exact ⟨ip, scope, ⟨t, zone, htext, ht, hzone⟩, rfl⟩
    · rintro ⟨ip, scope, ⟨t, zone, htext, ht, hzone⟩, rfl⟩
      exact ⟨t, zone, ip, scope, htext, ht, hzone, rfl⟩
  unfold SocketAddress.parse?
  cases h : readWhole readSocketV4 s!"{text}:{port.toNat}" with
  | none =>
    show readWhole readSocketV6 _ = some x ↔ _
    rw [hv6, ← hv4, h]
    simp
  | some y =>
    show some y = some x ↔ _
    rw [← h, hv4]
    refine (or_iff_left ?_).symm
    rintro ⟨ip, scope, hbracketed, -⟩
    obtain ⟨ip', hip', -⟩ := (hv4 y).mp h
    exact hbracketed.parse?_ne _ hip'

end Net

namespace MetricsConfig

theorem listenOn_ok {m : MetricsConfig} {address : Net.SocketAddress} : m.listenOn = .ok address ↔
    m.endpoint = servedEndpoint ∧ Net.SocketAddress.parse? s!"{m.listenAddress}:{m.port.toNat}" = some address := by
  unfold listenOn
  split
  · simp_all
  · split <;> simp_all

/-- Where the listener waits. At any other path than the one that is served it waits nowhere. At that path it waits just if
    the configured address is one of version 4, and then there, or one of version 6 in brackets, and then at that address
    and scope; at the configured port in either case. Every other text is refused for the address, one of version 6 without
    brackets among them. So the listener waits at the addresses that are configured, and nowhere else, just in case the
    text is not one of version 6, neither with brackets nor without. -/
theorem waits_at_configured (m : MetricsConfig) :
    (m.endpoint ≠ servedEndpoint → m.listenOn = .error (.endpoint m.endpoint)) ∧
      (m.endpoint = servedEndpoint →
        (∀ address, m.listenOn = .ok address ↔
          (∃ ip, Net.Ip.parse? m.listenAddress = some (.v4 ip) ∧ address = ⟨.v4 ip, 0, m.port⟩) ∨
            ∃ ip scope, Net.Bracketed m.listenAddress ip scope ∧ address = ⟨.v6 ip, scope, m.port⟩) ∧
        (∀ e, m.listenOn = .error e → e = .listenAddress) ∧
        (∀ ip, Net.Ip.parse? m.listenAddress = some (.v6 ip) → m.listenOn = .error .listenAddress ∧
          ({ m with listenAddress := "[" ++ m.listenAddress ++ "]" }).listenOn = .ok ⟨.v6 ip, 0, m.port⟩) ∧
        ((∀ address, m.listenOn = .ok address ↔
            ∃ ip, Net.Ip.parse? m.listenAddress = some ip ∧ address = ⟨ip, 0, m.port⟩) ↔
          (∀ ip, Net.Ip.parse? m.listenAddress ≠ some (.v6 ip)) ∧
            ∀ ip scope, ¬Net.Bracketed m.listenAddress ip scope)) := by
  have hok : m.endpoint = servedEndpoint → ∀ address, m.listenOn = .ok address ↔
      (∃ ip, Net.Ip.parse? m.listenAddress = some (.v4 ip) ∧ address = ⟨.v4 ip, 0, m.port⟩) ∨
        ∃ ip scope, Net.Bracketed m.listenAddress ip scope ∧ address = ⟨.v6 ip, scope, m.port⟩ := by
    intro hserved address
    rw [listenOn_ok, Net.parse?_pasted]
    simp [hserved]
  have herror : m.endpoint = servedEndpoint → ∀ e, m.listenOn = .error e → e = .listenAddress := by
    intro hserved e he
    unfold listenOn at he
    rw [if_neg (not_not.mpr hserved)] at he
    split at he <;> cases he
    rfl
  refine ⟨fun hother => ?_, fun hserved => ⟨hok hserved, herror hserved, fun ip hip => ⟨?_, ?_⟩, ?_⟩⟩
  · unfold listenOn
    rw [if_pos hother]
  · cases hm : m.listenOn with
    | error e => rw [herror hserved e hm]
    | ok address =>
      rcases (hok hserved address).mp hm with ⟨ip', hip', -⟩ | ⟨ip', scope, hbracketed, -⟩
      · cases hip.symm.trans hip'
      · exact absurd hip (hbracketed.parse?_ne _)
  · rw [listenOn_ok, Net.parse?_pasted]
    exact ⟨hserved, Or.inr ⟨ip, 0, ⟨m.listenAddress, "", by simp, hip, Or.inl ⟨rfl, rfl⟩⟩, rfl⟩⟩
  · simp only [hok hserved]
    constructor
    · intro hexact
      refine ⟨fun ip hip => ?_, fun ip scope hbracketed => ?_⟩
      · rcases (hexact _).mpr ⟨_, hip, rfl⟩ with ⟨ip', -, heq⟩ | ⟨ip', scope, hbracketed, -⟩
        · cases heq
        · exact hbracketed.parse?_ne _ hip
      · obtain ⟨ip', hip', -⟩ := (hexact _).mp (Or.inr ⟨ip, scope, hbracketed, rfl⟩)
        exact hbracketed.parse?_ne _ hip'
    · rintro ⟨hplain, hbracketed⟩ address
      constructor
      · rintro (⟨ip, hip, rfl⟩ | ⟨ip, scope, h, -⟩)
        · exact ⟨_, hip, rfl⟩
        · exact absurd h (hbracketed ip scope)
      · rintro ⟨ip | ip, hip, rfl⟩
        · exact Or.inl ⟨ip, hip, rfl⟩
        · exact absurd hip (hplain ip)

/-- The loopback address of version 6 is refused as it is written, and taken in brackets, which are no part of it. -/
theorem loopback_needs_brackets :
    let m (text : String) : MetricsConfig := { listenAddress := text }
    let loopback : Net.Ipv6 := ⟨[0, 0, 0, 0, 0, 0, 0, 1]⟩
    Net.Ip.parse? "::1" = some (.v6 loopback) ∧ (m "::1").listenOn = .error .listenAddress ∧
      Net.Ip.parse? "[::1]" = none ∧ (m "[::1]").listenOn = .ok ⟨.v6 loopback, 0, 9100⟩ := by
  decide

end MetricsConfig
end FrameSentry

import TheWire.Packet
import Mathlib.Data.List.AList

/-!
# The application-layer dispatcher

`application/mod.rs`: `handleApplicationProtocol` routes a transport-layer payload by its port
pair to the handler of HTTP, TLS, DNS or Modbus, the first whose well-known port is the source or
the destination port. The handlers of HTTP, TLS and DNS are not under src/; they are the
parameters `Handlers`. They act on the calling `Thread`: its thread-local reassembly maps
`ACTIVE_HTTP_PARSERS` and `ACTIVE_TLS_PARSERS`, and the `ParsedPacket` being filled.

`classify` states the routing as §4.1 of the spec does, a first match over the well-known ports,
and `handleApplicationProtocol_spec` proves that the dispatcher is `dispatch` of `classify`; on
the Modbus path it never panics and always fills the application layer, with a Modbus record
exactly when `ModbusPacket.parse` accepts the payload, and it leaves the other layers and the
reassembly maps as they were.
-/

namespace TheWire

open Modbus

/-- `std::net::IpAddr`. -/
inductive IpAddr
  | v4 (addr : UInt32)
  | v6 (addr : BitVec 128)
  deriving DecidableEq, Repr

/-! `WellKnownPorts`: the IANA well-known TCP/UDP ports. -/

namespace WellKnownPorts

/-- `HTTP_PORT`. -/
def httpPort : UInt16 := 80

/-- `TLS_PORT`. -/
def tlsPort : UInt16 := 443

/-- `DNS_PORT`. -/
def dnsPort : UInt16 := 53

/-- `MODBUS_PORT`. -/
def modbusPort : UInt16 := 502

end WellKnownPorts

open WellKnownPorts

/-- `HttpPacketType`. -/
inductive HttpPacketType
  | request
  | response
  deriving DecidableEq, Repr

/-- The key of the reassembly maps: `((source_ip, source_port), (dest_ip, dest_port))`. -/
abbrev FlowKey := (IpAddr × UInt16) × (IpAddr × UInt16)

/-- The thread-local maps `ACTIVE_HTTP_PARSERS` and `ACTIVE_TLS_PARSERS`: the bytes buffered so
far for each flow. -/
structure ActiveParsers where
  http : AList fun _ : FlowKey => List UInt8
  tls : AList fun _ : FlowKey => List UInt8
  deriving DecidableEq

/-- What a call of `handle_application_protocol` reads and writes: the calling thread's
reassembly maps and the `ParsedPacket` it fills. -/
structure Thread where
  activeParsers : ActiveParsers
  parsedPacket : ParsedPacket
  deriving DecidableEq

/-- The handlers of `http.rs`, `tls.rs` and `dns.rs`, which are not under src/: the dispatcher's
parameters, with the signatures of the source. Each acts on the calling thread, `none` being a
panic. -/
structure Handlers where
  handleHttpPacket : IpAddr → UInt16 → IpAddr → UInt16 → HttpPacketType → Bool → List UInt8 →
    Thread → Option Thread
  handleTlsPacket : IpAddr → UInt16 → IpAddr → UInt16 → List UInt8 → Thread → Option Thread
  handleDnsPacket : IpAddr → UInt16 → IpAddr → UInt16 → List UInt8 → Thread → Option Thread

/-- `handle_modbus_packet`. The source's malformed record says "DNS": its text is copied. -/
def handleModbusPacket (_sourceIp : IpAddr) (_sourcePort : UInt16) (_destIp : IpAddr)
    (_destPort : UInt16) (packet : List UInt8) (parsedPacket : ParsedPacket) :
    Option ParsedPacket := do
  match ← ModbusPacket.parse packet with
  | .ok modbusPacket =>
    pure (parsedPacket.setApplicationLayerPacket
      (some (.modbusPacket (.ofModbusPacket modbusPacket))))
  | .error _ =>
    pure (parsedPacket.setApplicationLayerPacket (some (.malformedPacket "Malformed DNS Packet")))

/-- `handle_application_protocol`: the `match` on the port pair, arm by arm. -/
def handleApplicationProtocol (H : Handlers) (sourceIp : IpAddr) (sourcePort : UInt16)
    (destIp : IpAddr) (destPort : UInt16) (isFin : Bool) (packet : List UInt8) (t : Thread) :
    Option Thread :=
  if sourcePort = httpPort ∨ destPort = httpPort then
    let httpType := if destPort = httpPort then HttpPacketType.request else .response
    H.handleHttpPacket sourceIp sourcePort destIp destPort httpType isFin packet t
  else if sourcePort = tlsPort ∨ destPort = tlsPort then
    H.handleTlsPacket sourceIp sourcePort destIp destPort packet t
  else if sourcePort = dnsPort ∨ destPort = dnsPort then
    H.handleDnsPacket sourceIp sourcePort destIp destPort packet t
  else if sourcePort = modbusPort ∨ destPort = modbusPort then
    (handleModbusPacket sourceIp sourcePort destIp destPort packet t.parsedPacket).map
      fun parsedPacket => { t with parsedPacket }
  else some t

/-! ## The Modbus handler -/

/-- The record the Modbus handler writes for a decoding outcome. -/
def modbusRecord : Except ModbusError ModbusPacket → SerializablePacket
  | .ok modbusPacket => .modbusPacket (.ofModbusPacket modbusPacket)
  | .error _ => .malformedPacket "Malformed DNS Packet"

theorem handleModbusPacket_eq {p : List UInt8} {r : Except ModbusError ModbusPacket}
    (h : ModbusPacket.parse p = some r) (sourceIp : IpAddr) (sourcePort : UInt16)
    (destIp : IpAddr) (destPort : UInt16) (pp : ParsedPacket) :
    handleModbusPacket sourceIp sourcePort destIp destPort p pp =
      some (pp.setApplicationLayerPacket (some (modbusRecord r))) := by
  rw [handleModbusPacket, h]
  cases r <;> rfl

theorem exists_modbusRecord_iff (r : Except ModbusError ModbusPacket) :
    (∃ m, modbusRecord r = .modbusPacket m) ↔ ∃ f, r = .ok f := by
  cases r <;> simp [modbusRecord]

theorem exists_modbusRecord_malformed_iff (r : Except ModbusError ModbusPacket) :
    (∃ s, modbusRecord r = .malformedPacket s) ↔ ¬∃ f, r = .ok f := by
  cases r <;> simp [modbusRecord]

/-! ## Routing -/

/-- The protocol families of the dispatcher, HTTP with its direction. -/
inductive Protocol
  | http (httpType : HttpPacketType)
  | tls
  | dns
  | modbus
  deriving DecidableEq, Repr

/-- The routing of §4.1 of the spec: the first of HTTP, TLS, DNS and Modbus whose well-known port
is the source or the destination port, HTTP to port 80 being a request and any other a response. -/
def classify (sourcePort destPort : UInt16) : Option Protocol :=
  [((80 : UInt16), Protocol.http (if destPort = 80 then .request else .response)), (443, .tls),
      (53, .dns), (502, .modbus)].findSome? fun rule =>
    if rule.1 ∈ [sourcePort, destPort] then some rule.2 else none

/-- The handler of a protocol family, the Modbus one acting on the thread's parsed packet; with no
family the thread is left as it is. -/
def dispatch (H : Handlers) (sourceIp : IpAddr) (sourcePort : UInt16) (destIp : IpAddr)
    (destPort : UInt16) (isFin : Bool) (packet : List UInt8) :
    Option Protocol → Thread → Option Thread
  | some (.http httpType), t =>
    H.handleHttpPacket sourceIp sourcePort destIp destPort httpType isFin packet t
  | some .tls, t => H.handleTlsPacket sourceIp sourcePort destIp destPort packet t
  | some .dns, t => H.handleDnsPacket sourceIp sourcePort destIp destPort packet t
  | some .modbus, t =>
    (handleModbusPacket sourceIp sourcePort destIp destPort packet t.parsedPacket).map
      fun parsedPacket => { t with parsedPacket }
  | none, t => some t

theorem mem_pair_iff (a s d : UInt16) : a ∈ [s, d] ↔ s = a ∨ d = a := by
  simp [eq_comm]

/-- A first match over a rule table, one rule at a time. -/
theorem findSome?_cons_ite {α β : Type} (c : α → Prop) [DecidablePred c] (g : α → β) (a : α)
    (l : List α) : (a :: l).findSome? (fun r => if c r then some (g r) else none) =
      if c a then some (g a) else l.findSome? fun r => if c r then some (g r) else none := by
  by_cases h : c a <;> simp [h]

section Dispatch

variable (H : Handlers) (sourceIp destIp : IpAddr) (s d : UInt16) (isFin : Bool)
  (p : List UInt8) (t : Thread)

/-- The dispatcher's `match` is the first-match routing of `classify`. -/
theorem handleApplicationProtocol_eq_dispatch :
    handleApplicationProtocol H sourceIp s destIp d isFin p t =
      dispatch H sourceIp s destIp d isFin p (classify s d) t := by
  simp only [handleApplicationProtocol, classify, httpPort, tlsPort, dnsPort, modbusPort,
    findSome?_cons_ite, List.findSome?_nil, mem_pair_iff,
    apply_ite (dispatch H sourceIp s destIp d isFin p · t)]
  rfl

/-- On the Modbus path the dispatcher writes the record of the decoding outcome into the
application layer, and changes nothing else. -/
theorem dispatch_modbus {r : Except ModbusError ModbusPacket} (h : ModbusPacket.parse p = some r) :
    dispatch H sourceIp s destIp d isFin p (some .modbus) t =
      some { t with
        parsedPacket := t.parsedPacket.setApplicationLayerPacket (some (modbusRecord r)) } := by
  simp [dispatch, handleModbusPacket_eq h]

/-- **The dispatcher routes by first match**, HTTP, TLS, DNS then Modbus. On the Modbus path it
never panics and fills the application layer, with a Modbus record exactly when
`ModbusPacket.parse` accepts the payload and a malformed one otherwise, and keeps the id and the
other layers; with no match it leaves the thread as it is. -/
theorem handleApplicationProtocol_spec :
    handleApplicationProtocol H sourceIp s destIp d isFin p t =
      dispatch H sourceIp s destIp d isFin p (classify s d) t ∧
    (classify s d = some .modbus → ∃ t',
      handleApplicationProtocol H sourceIp s destIp d isFin p t = some t' ∧
      t'.parsedPacket.applicationLayerPacket ≠ none ∧
      ((∃ m, t'.parsedPacket.applicationLayerPacket = some (.modbusPacket m)) ↔
        ∃ f, ModbusPacket.parse p = some (.ok f)) ∧
      ((∃ f, ModbusPacket.parse p = some (.ok f)) ↔
        4 ≤ p.length ∧ (1 : UInt8) ≤ p[1]! ∧ p[1]! ≤ 127) ∧
      ((∃ reason, t'.parsedPacket.applicationLayerPacket = some (.malformedPacket reason)) ↔
        ¬∃ f, ModbusPacket.parse p = some (.ok f)) ∧
      t.parsedPacket.SameLowerLayers t'.parsedPacket) ∧
    (classify s d = none → handleApplicationProtocol H sourceIp s destIp d isFin p t = some t) := by
  refine ⟨handleApplicationProtocol_eq_dispatch .., fun hm => ?_, fun hn => ?_⟩
  · obtain ⟨r, hr⟩ := exists_parseModbusRtu_eq p
    have ok_iff : (∃ f, ModbusPacket.parse p = some (.ok f)) ↔ ∃ f, r = .ok f := by
      simp [ModbusPacket.parse, hr]
    refine ⟨{ t with
        parsedPacket := t.parsedPacket.setApplicationLayerPacket (some (modbusRecord r)) },
      by rw [handleApplicationProtocol_eq_dispatch, hm, dispatch_modbus _ _ _ _ _ _ _ _ hr],
      by simp, ?_, exists_parseModbusRtu_ok_iff p, ?_,
      ParsedPacket.sameLowerLayers_setApplicationLayerPacket ..⟩
    · simpa [ok_iff] using exists_modbusRecord_iff r
    · simpa [ok_iff] using exists_modbusRecord_malformed_iff r
  · rw [handleApplicationProtocol_eq_dispatch, hn]
    rfl

end Dispatch

end TheWire
